/-
MetricAudit.Text.CharacterNames.GToL — names of characters, G to L.

The names of characters that start with a letter from G to L, written by their
beginnings as `Text.isListed` reads them: what stands in brackets, with
commas between, continues what stands before. The lines of a letter make
one text.
-/

namespace MetricAudit.Text.CharacterNames

/-- The names that start with G. -/
def startingWithG : List String := [
  "G(A(ME DIE,RLIC),E(AR(, WITH( HANDLES,OUT HUB)),M( STONE,INI),NIE,O(METRIC( PROPORTION,ALLY EQ",
  "U(AL TO,IVALENT TO)),RGIAN (CAPITAL LETTER (A(EN,N),BAN,C(AN,H(AR,IN),IL),DON,EN,G(AN,HAN),H(A",
  "(E,R),E,IE,OE),IN,J(HAN,IL),K(AN,HAR),LAS,MAN,NAR,ON,P(AR,HAR),QAR,RAE,S(AN,HIN),TA(N,R),UN,VI",
  "N,WE,XAN,YN,Z(EN,HAR)),LETTER (A(EN,IN,N),BAN,C(AN,H(AR,IN),IL),DON,E(LIFI,N),FI,G(AN,HAN),H(A",
  "(E,R(,D SIGN)),E,IE,OE),IN,J(HAN,IL),K(AN,HAR),LA(BIAL SIGN,S),MAN,NAR,ON,P(AR,HAR),QAR,RAE,S(",
  "AN,HIN),T(A(N,R),URNED GAN),UN,VIN,WE,XAN,YN,Z(EN,HAR)),MTAVRULI CAPITAL LETTER (A(EN,IN,N),BA",
  "N,C(AN,H(AR,IN),IL),DON,E(LIFI,N),FI,G(AN,HAN),H(A(E,R(,D SIGN)),E,IE,OE),IN,J(HAN,IL),K(AN,HA",
  "R),LA(BIAL SIGN,S),MAN,NAR,ON,P(AR,HAR),QAR,RAE,S(AN,HIN),T(A(N,R),URNED GAN),UN,VIN,WE,XAN,YN",
  ",Z(EN,HAR)),PARAGRAPH SEPARATOR,SMALL LETTER (A(EN,N),BAN,C(AN,H(AR,IN),IL),DON,EN,G(AN,HAN),H",
  "(A(E,R),E,IE,OE),IN,J(HAN,IL),K(AN,HAR),LAS,MAN,NAR,ON,P(AR,HAR),QAR,RAE,S(AN,HIN),TA(N,R),UN,",
  "VIN,WE,XAN,YN,Z(EN,HAR)))),RMAN PENNY SIGN,TA MARK),HOST,I(MEL SYMBOL,R(AFFE FACE,L(,S SYMBOL)",
  ")),L(A(GOLITIC (CAPITAL LETTER (AZU,B(IG YUS,UKY),C(AUDATE CHRIVI,HRIVI),D(JERVI,OBRO,ZELO),F(",
  "ITA,RITU),GLAGOLI,HERU,I(,NITIAL IZHE,OTATED (BIG YUS,SMALL YUS),ZH(E,ITSA)),KAKO,L(ATINATE MY",
  "SLITE,JUDIJE),MYSLITE,NASHI,O(NU,TU),P(E,OKOJI),RITSI,S(H(A,TA(,PIC)),LOVO,MALL YUS(, WITH TAI",
  "L),PIDERY HA),T(ROKUTASTI A,SI,VRIDO),UKU,VEDE,Y(ATI,E(R(I,U),STU),O,U),Z(EMLJA,HIVETE)),SMALL",
  " LETTER (AZU,B(IG YUS,UKY),C(AUDATE CHRIVI,HRIVI),D(JERVI,OBRO,ZELO),F(ITA,RITU),GLAGOLI,HERU,",
  "I(,NITIAL IZHE,OTATED (BIG YUS,SMALL YUS),ZH(E,ITSA)),KAKO,L(ATINATE MYSLITE,JUDIJE),MYSLITE,N",
  "ASHI,O(NU,TU),P(E,OKOJI),RITSI,S(H(A,TA(,PIC)),LOVO,MALL YUS(, WITH TAIL),PIDERY HA),T(ROKUTAS",
  "TI A,SI,VRIDO),UKU,VEDE,Y(ATI,E(R(I,U),STU),O,U),Z(EMLJA,HIVETE))),SS OF MILK),EICH STARK,O(BE",
  " WITH MERIDIANS,VES,WING STAR)),O(A(L NET,T),GGLES,LFER,RILLA,THIC LETTER (A(HSA,IHVUS),BAIRKA",
  "N,DAGS,EIS,FAIHU,GIBA,H(AGL,WAIR),I(GGWS,UJA),JER,KUSMA,LAGUS,MANNA,N(AUTHS,INE( HUNDRED,TY)),",
  "OTHAL,PAIRTHRA,QAIRTHRA,RAIDA,SAUIL,T(EIWS,HIUTH),URUS,WINJA)),R(A(DUATION CAP,NTHA (AU LENGTH",
  " MARK,LETTER (A(,A,I,U),B(A,HA),C(A,HA),D(A,D(A,HA),HA),EE,G(A,HA),HA,I(,I),J(A,HA),K(A,HA),L(",
  "A,LA),MA,N(A,GA,NA,YA),OO,P(A,HA),RA,S(A,HA,SA),T(A,HA,T(A,HA)),U(,U),V(A,EDIC (ANUSVARA,DOUBL",
  "E ANUSVARA),OCALIC (L(,L),R(,R))),YA),OM,SIGN (A(NUSVARA,VAGRAHA),C(ANDRABINDU,OMBINING ANUSVA",
  "RA ABOVE),NUKTA,PLUTA,VI(RAMA,SARGA)),VOWEL SIGN (A(A,I,U),EE,I(,I),OO,U(,U),VOCALIC (L(,L),R(",
  ",R)))),PES,VE ACCENT),E(ATER-THAN (A(BOVE (DOUBLE-LINE EQUAL ABOVE LESS-THAN,LESS-THAN ABOVE D",
  "OUBLE-LINE EQUAL,RIGHTWARDS ARROW,S(IMILAR (ABOVE LESS-THAN,OR EQUAL),LANTED EQUAL ABOVE LESS-",
  "THAN ABOVE SLANTED EQUAL)),ND (NOT APPROXIMATE,SINGLE-LINE NOT EQUAL TO)),B(ESIDE LESS-THAN,UT",
  " NOT EQU(AL TO,IVALENT TO)),CLOSED BY CURVE(, ABOVE SLANTED EQUAL),EQUAL TO OR LESS-THAN,O(R (",
  "APPROXIMATE,EQU(AL TO,IVALENT TO),LESS-THAN,SLANTED EQUAL TO(, WITH DOT (ABOVE(, LEFT),INSIDE)",
  ")),VER( EQUAL TO,LAPPING LESS-THAN)),SIGN,WITH (CIRCLE INSIDE,DOT,QUESTION MARK ABOVE)),E(K (A",
  "(CROPHONIC (ATTIC (FI(FTY(, (STATERS,T(ALENTS,HOUSAND(, STATERS)))),VE(, (HUNDRED(, (STATERS,T",
  "ALENTS)),STATERS,T(ALENTS,HOUSAND(, TALENTS))))),ONE (DRACHMA,H(ALF,UNDRED (STATERS,TALENTS)),",
  "QUARTER,THOUSAND (STATERS,TALENTS)),TEN (MNAS,STATERS,T(ALENTS,HOUSAND STATERS))),C(ARYSTIAN F",
  "IVE HUNDRED,YRENAIC TWO DRACHMAS),DELPHIC FIVE MNAS,EPIDAUREAN (FIVE HUNDRED,TWO(, DRACHMAS)),",
  "HER(AEUM ONE PLETHRON,MIONIAN (FIFTY,ONE,TEN)),MESSENIAN TEN,NAXIAN FIVE HUNDRED,STRATIAN FIFT",
  "Y MNAS,T(HESPIAN (FI(FTY,VE (HUNDRED,THOUSAND)),ONE(, (HUNDRED,THOUSAND)),T(EN,H(IRTY,REE HUND",
  "RED),WO)),ROEZENIAN (FI(FTY(, ALTERNATE FORM),VE(, HUNDRED)),TEN(, ALTERNATE FORM)))),NO TELEI",
  "A,R(OURA SIGN,TABE SIGN)),BETA SYMBOL,CAPITAL (DOTTED LUNATE SIGMA SYMBOL,KAI SYMBOL,L(ETTER (",
  "A(LPHA(, WITH (DASIA(, AND (OXIA(, AND PROSGEGRAMMENI),P(ERISPOMENI(, AND PROSGEGRAMMENI),ROSG",
  "EGRAMMENI),VARIA(, AND PROSGEGRAMMENI))),MACRON,OXIA,P(ROSGEGRAMMENI,SILI(, AND (OXIA(, AND PR",
  "OSGEGRAMMENI),P(ERISPOMENI(, AND PROSGEGRAMMENI),ROSGEGRAMMENI),VARIA(, AND PROSGEGRAMMENI))))",
  ",TONOS,V(ARIA,RACHY))),RCHAIC SAMPI),BETA,CHI,DELTA,E(PSILON(, WITH (DASIA(, AND (OXIA,VARIA))",
  ",OXIA,PSILI(, AND (OXIA,VARIA)),TONOS,VARIA)),TA(, WITH (DASIA(, AND (OXIA(, AND PROSGEGRAMMEN",
  "I),P(ERISPOMENI(, AND PROSGEGRAMMENI),ROSGEGRAMMENI),VARIA(, AND PROSGEGRAMMENI))),OXIA,P(ROSG",
  "EGRAMMENI,SILI(, AND (OXIA(, AND PROSGEGRAMMENI),P(ERISPOMENI(, AND PROSGEGRAMMENI),ROSGEGRAMM",
  "ENI),VARIA(, AND PROSGEGRAMMENI)))),TONOS,VARIA))),GAMMA,HETA,IOTA(, WITH (D(ASIA(, AND (OXIA,",
  "PERISPOMENI,VARIA)),IALYTIKA),MACRON,OXIA,PSILI(, AND (OXIA,PERISPOMENI,VARIA)),TONOS,V(ARIA,R",
  "ACHY))),KAPPA,LAMDA,MU,NU,OM(EGA(, WITH (DASIA(, AND (OXIA(, AND PROSGEGRAMMENI),P(ERISPOMENI(",
  ", AND PROSGEGRAMMENI),ROSGEGRAMMENI),VARIA(, AND PROSGEGRAMMENI))),OXIA,P(ROSGEGRAMMENI,SILI(,",
  " AND (OXIA(, AND PROSGEGRAMMENI),P(ERISPOMENI(, AND PROSGEGRAMMENI),ROSGEGRAMMENI),VARIA(, AND",
  " PROSGEGRAMMENI)))),TONOS,VARIA)),ICRON(, WITH (DASIA(, AND (OXIA,VARIA)),OXIA,PSILI(, AND (OX",
  "IA,VARIA)),TONOS,VARIA))),P(AMPHYLIAN DIGAMMA,HI,I,SI),RHO(, WITH DASIA),S(AN,HO,IGMA),T(AU,HE",
  "TA),UPSILON(, WITH (D(ASIA(, AND (OXIA,PERISPOMENI,VARIA)),IALYTIKA),MACRON,OXIA,TONOS,V(ARIA,",
  "RACHY))),XI,YOT,ZETA),UNATE SIGMA SYMBOL),REVERSED (DOTTED LUNATE SIGMA SYMBOL,LUNATE SIGMA SY",
  "MBOL),THETA SYMBOL),D(ASIA(, AND (OXIA,PERISPOMENI,VARIA)),IALYTIKA (AND (OXIA,PERISPOMENI,VAR",
  "IA),TONOS),RACHMA SIGN),F(IVE OBOLS SIGN,OUR OBOLS SIGN),GRAMMA SIGN,IN(DICTION SIGN,STRUMENTA",
  "L NOTATION SYMBOL-(1(,1,2,3,4,7,8,9),2(,3,4,5,6,7,9),3(0,2,6,7,8,9),4(,0,2,3,5,7,8,9),5(,0,1,2",
  ",3,4),7,8)),K(A(I SYMBOL,PPA SYMBOL),ORONIS,YATHOS BASE SIGN),L(ETTER (ARCHAIC KOPPA,DIGAMMA,K",
  "OPPA,S(AMPI,MALL CAPITAL (GAMMA,LAMDA,OMEGA,P(I,SI),RHO),TIGMA),YOT),ITRA SIGN,OWER NUMERAL SI",
  "GN,UNATE (EPSILON SYMBOL,SIGMA SYMBOL)),M(ETRETES SIGN,USICAL LEIMMA),NUMERAL SIGN,O(BOL SIGN,",
  "NE (HALF SIGN(, ALTERNATE FORM),QUARTER SIGN),UNKIA SIGN,XIA),P(ERISPOMENI,HI SYMBOL,I SYMBOL,",
  "ROSGEGRAMMENI,SILI(, AND (OXIA,PERISPOMENI,VARIA))),QUESTION MARK,R(EVERSED LUNATE EPSILON SYM",
  "BOL,HO (SYMBOL,WITH STROKE SYMBOL)),S(INUSOID SIGN,MALL (DOTTED LUNATE SIGMA SYMBOL,LETTER (A(",
  "LPHA(, WITH (DASIA(, AND (OXIA(, AND YPOGEGRAMMENI),PERISPOMENI(, AND YPOGEGRAMMENI),VARIA(, A",
  "ND YPOGEGRAMMENI),YPOGEGRAMMENI)),MACRON,OXIA(, AND YPOGEGRAMMENI),P(ERISPOMENI(, AND YPOGEGRA",
  "MMENI),SILI(, AND (OXIA(, AND YPOGEGRAMMENI),PERISPOMENI(, AND YPOGEGRAMMENI),VARIA(, AND YPOG",
  "EGRAMMENI),YPOGEGRAMMENI))),TONOS,V(ARIA(, AND YPOGEGRAMMENI),RACHY),YPOGEGRAMMENI)),RCHAIC (K",
  "OPPA,SAMPI)),BETA,CHI,D(ELTA,IGAMMA),E(PSILON(, WITH (DASIA(, AND (OXIA,VARIA)),OXIA,PSILI(, A",
  "ND (OXIA,VARIA)),TONOS,VARIA)),TA(, WITH (DASIA(, AND (OXIA(, AND YPOGEGRAMMENI),PERISPOMENI(,",
  " AND YPOGEGRAMMENI),VARIA(, AND YPOGEGRAMMENI),YPOGEGRAMMENI)),OXIA(, AND YPOGEGRAMMENI),P(ERI",
  "SPOMENI(, AND YPOGEGRAMMENI),SILI(, AND (OXIA(, AND YPOGEGRAMMENI),PERISPOMENI(, AND YPOGEGRAM",
  "MENI),VARIA(, AND YPOGEGRAMMENI),YPOGEGRAMMENI))),TONOS,VARIA(, AND YPOGEGRAMMENI),YPOGEGRAMME",
  "NI))),FINAL SIGMA,GAMMA,HETA,IOTA(, WITH (D(ASIA(, AND (OXIA,PERISPOMENI,VARIA)),IALYTIKA(, AN",
  "D (OXIA,PERISPOMENI,TONOS,VARIA))),MACRON,OXIA,P(ERISPOMENI,SILI(, AND (OXIA,PERISPOMENI,VARIA",
  "))),TONOS,V(ARIA,RACHY))),K(APPA,OPPA),LAMDA,MU,NU,OM(EGA(, WITH (DASIA(, AND (OXIA(, AND YPOG",
  "EGRAMMENI),PERISPOMENI(, AND YPOGEGRAMMENI),VARIA(, AND YPOGEGRAMMENI),YPOGEGRAMMENI)),OXIA(, ",
  "AND YPOGEGRAMMENI),P(ERISPOMENI(, AND YPOGEGRAMMENI),SILI(, AND (OXIA(, AND YPOGEGRAMMENI),PER",
  "ISPOMENI(, AND YPOGEGRAMMENI),VARIA(, AND YPOGEGRAMMENI),YPOGEGRAMMENI))),TONOS,VARIA(, AND YP",
  "OGEGRAMMENI),YPOGEGRAMMENI)),ICRON(, WITH (DASIA(, AND (OXIA,VARIA)),OXIA,PSILI(, AND (OXIA,VA",
  "RIA)),TONOS,VARIA))),P(AMPHYLIAN DIGAMMA,HI,I,SI),RHO(, WITH (DASIA,PSILI)),S(A(MPI,N),HO,IGMA",
  ",TIGMA),T(AU,HETA),UPSILON(, WITH (D(ASIA(, AND (OXIA,PERISPOMENI,VARIA)),IALYTIKA(, AND (OXIA",
  ",PERISPOMENI,TONOS,VARIA))),MACRON,OXIA,P(ERISPOMENI,SILI(, AND (OXIA,PERISPOMENI,VARIA))),TON",
  "OS,V(ARIA,RACHY))),XI,ZETA),REVERSED (DOTTED LUNATE SIGMA SYMBOL,LUNATE SIGMA SYMBOL)),UBSCRIP",
  "T SMALL LETTER (BETA,CHI,GAMMA,PHI,RHO),YMBOL TAU RHO),T(ALENT SIGN,H(ETA SYMBOL,REE (OBOLS SI",
  "GN,QUARTERS SIGN)),ONOS,RYBLION BASE SIGN,WO (OBOLS SIGN,THIRDS SIGN)),UPSILON WITH (ACUTE AND",
  " HOOK SYMBOL,DIAERESIS AND HOOK SYMBOL,HOOK SYMBOL),V(ARIA,OCAL NOTATION SYMBOL-(1(,0,1,2,3,4,",
  "5,6,7,8,9),2(,0,1,2,3,4),3,4,5(,0,1,2,3,4),6,7,8,9)),XESTES SIGN,Y(EAR SIGN,POGEGRAMMENI),ZERO",
  " SIGN),N (APPLE,BOOK,HEART,SALAD))),I(MACING FACE,NNING (CAT FACE WITH SMILING EYES,FACE(, WIT",
  "H (ONE LARGE AND ONE SMALL EYE,S(MILING EYES,TAR EYES))))),O(UP (MARK,SEPARATOR),WING HEART)),",
  "S,U(AR(ANI SIGN,DSMAN),I(DE DOG,TAR),JARATI (ABBREVIATION SIGN,DIGIT (EIGHT,F(IVE,OUR),NINE,ON",
  "E,S(EVEN,IX),T(HREE,WO),ZERO),LETTER (A(,A,I,U),B(A,HA),C(A,HA),D(A,D(A,HA),HA),E,G(A,HA),HA,I",
  "(,I),J(A,HA),K(A,HA),L(A,LA),MA,N(A,GA,NA,YA),O,P(A,HA),RA,S(A,HA,SA),T(A,HA,T(A,HA)),U(,U),V(",
  "A,OCALIC (L(,L),R(,R))),YA,ZHA),OM,RUPEE SIGN,SIGN (A(NUSVARA,VAGRAHA),C(ANDRABINDU,IRCLE NUKT",
  "A ABOVE),MADDAH,NUKTA,S(HADDA,UKUN),T(HREE-DOT NUKTA ABOVE,WO-CIRCLE NUKTA ABOVE),VI(RAMA,SARG",
  "A)),VOWEL (CANDRA (E,O),SIGN (A(A,I,U),CANDRA (E,O),E,I(,I),O,U(,U),VOCALIC (L(,L),R(,R))))),N",
  "JALA GONDI (DIGIT (EIGHT,F(IVE,OUR),NINE,ONE,S(EVEN,IX),T(HREE,WO),ZERO),LETTER (A(,A,I,U),B(A",
  ",HA),C(A,HA),D(A,D(A,HA),HA),EE,G(A,HA),HA,I(,I),J(A,HA),K(A,HA),L(A,LA),MA,N(A,GA),OO,P(A,HA)",
  ",RA,SA,T(A,HA,T(A,HA)),U(,U),VA,YA),OM,SIGN (ANUSVARA,VISARGA),V(IRAMA,OWEL SIGN (A(A,I,U),EE,",
  "I(,I),OO,U(,U)))),RMUKHI (A(BBREVIATION SIGN,DDAK),DIGIT (EIGHT,F(IVE,OUR),NINE,ONE,S(EVEN,IX)",
  ",T(HREE,WO),ZERO),EK ONKAR,IRI,LETTER (A(,A,I,U),B(A,HA),C(A,HA),D(A,D(A,HA),HA),EE,FA,G(A,H(A",
  ",HA)),HA,I(,I),J(A,HA),K(A,H(A,HA)),L(A,LA),MA,N(A,GA,NA,YA),OO,P(A,HA),R(A,RA),S(A,HA),T(A,HA",
  ",T(A,HA)),U(,U),VA,YA,ZA),SIGN (ADAK BINDI,BINDI,NUKTA,UDAAT,VI(RAMA,SARGA),YAKASH),TIPPI,URA,",
  "VOWEL SIGN (A(A,I,U),EE,I(,I),OO,U(,U)))))"]

/-- The names that start with H. -/
def startingWithH : List String := [
  "H(A(DES,IR( SPACE,CUT),LFWIDTH (BLACK SQUARE,DOWNWARDS ARROW,FORMS LIGHT VERTICAL,HANGUL (FILL",
  "ER,LETTER (A(,E),C(HIEUCH,IEUC),E(,O,U),HIEUH,I(,EUNG),K(HIEUKH,IYEOK(,-SIOS)),MIEUM,NIEUN(,-(",
  "CIEUC,HIEUH)),O(,E),P(HIEUPH,IEUP(,-SIOS)),RIEUL(,-(HIEUH,KIYEOK,MIEUM,P(HIEUPH,IEUP),SIOS,THI",
  "EUTH)),S(IOS,SANG(CIEUC,KIYEOK,PIEUP,SIOS,TIKEUT)),T(HIEUTH,IKEUT),U,W(A(,E),E(,O),I),Y(A(,E),",
  "E(,O),I,O,U))),IDEOGRAPHIC (COMMA,FULL STOP),KATAKANA( (LETTER (A,E,H(A,E,I,O,U),I,K(A,E,I,O,U",
  "),M(A,E,I,O,U),N(,A,E,I,O,U),O,R(A,E,I,O,U),S(A,E,I,MALL (A,E,I,O,TU,U,Y(A,O,U)),O,U),T(A,E,I,",
  "O,U),U,W(A,O),Y(A,O,U)),MIDDLE DOT,SEMI-VOICED SOUND MARK,VOICED SOUND MARK),-HIRAGANA PROLONG",
  "ED SOUND MARK),LEFT( CORNER BRACKET,WARDS ARROW),RIGHT( CORNER BRACKET,WARDS ARROW),UPWARDS AR",
  "ROW,WHITE CIRCLE),M(BURGER,MER(, AND (PICK,SICKLE,WRENCH)),S(A,TER FACE)),N(D( WITH INDEX (AND",
  " MIDDLE FINGERS CROSSED,FINGER AND THUMB CROSSED),BA(G,LL),SHAKE),G(UL (CHOSEONG (C(EONGCHIEUM",
  "(C(HIEUCH,IEUC),S(IOS,SANG(CIEUC,SIOS))),HI(EUCH(,-(HIEUH,KHIEUKH)),TUEUM(C(HIEUCH,IEUC),S(IOS",
  ",SANG(CIEUC,SIOS)))),IEUC(,-IEUNG)),FILLER,HIEUH(,-SIOS),IEUNG(,-(C(HIEUCH,IEUC),HIEUH,KIYEOK,",
  "MIEUM,P(ANSIOS,HIEUPH,IEUP),RIEUL,SIOS,T(HIEUTH,IKEUT))),K(APYEOUN(MIEUM,P(HIEUPH,IEUP),RIEUL,",
  "SSANGPIEUP),HIEUKH,IYEOK(,-TIKEUT)),MIEUM(,-(KIYEOK,PIEUP,SIOS,TIKEUT)),NIEUN(,-(CIEUC,HIEUH,K",
  "IYEOK,PIEUP,SIOS,TIKEUT)),P(ANSIOS,HIEUPH(,-(HIEUH,PIEUP)),IEUP(,-(C(HIEUCH,IEUC),HIEUH,K(HIEU",
  "KH,IYEOK),NIEUN,PHIEUPH,S(IOS(,-(CIEUC,KIYEOK,PIEUP,T(HIEUTH,IKEUT))),SANGSIOS),T(HIEUTH,IKEUT",
  ")))),RIEUL(,-(CIEUC,HIEUH,K(APYEOUNPIEUP,HIEUKH,IYEOK),MIEUM,NIEUN,PIEUP,S(IOS,SANG(KIYEOK,PIE",
  "UP,TIKEUT)),TIKEUT)),S(IOS(,-(C(HIEUCH,IEUC),HIEUH,IEUNG,K(HIEUKH,IYEOK),MIEUM,NIEUN,P(HIEUPH,",
  "IEUP(,-KIYEOK)),RIEUL,SSANGSIOS,T(HIEUTH,IKEUT))),SANG(CIEUC(,-HIEUH),HIEUH,IEUNG,KIYEOK,NIEUN",
  ",PIEUP,RIEUL,SIOS(,-PIEUP),T(HIEUTH,IKEUT),YEORINHIEUH)),T(HIEUTH,IKEUT(,-(CIEUC,KIYEOK,MIEUM,",
  "PIEUP,RIEUL,SIOS))),YE(ORINHIEUH,SIEUNG)),DOUBLE DOT TONE MARK,FILLER,J(ONGSEONG (C(HIEUCH,IEU",
  "C(,-(PIEUP,SSANGPIEUP))),HIEUH(,-(MIEUM,NIEUN,PIEUP,RIEUL)),IEUNG(,-(K(HIEUKH,IYEOK),SSANGKIYE",
  "OK)),K(APYEOUN(MIEUM,P(HIEUPH,IEUP),RIEUL),HIEUKH,IYEOK(,-(CHIEUCH,HIEUH,KHIEUKH,NIEUN,PIEUP,R",
  "IEUL,SIOS(,-KIYEOK)))),MIEUM(,-(C(HIEUCH,IEUC),HIEUH,KIYEOK,NIEUN,P(ANSIOS,IEUP(,-SIOS)),RIEUL",
  ",S(IOS,SANG(NIEUN,SIOS)))),NIEUN(,-(C(HIEUCH,IEUC),HIEUH,KIYEOK,PANSIOS,RIEUL,SIOS,T(HIEUTH,IK",
  "EUT))),P(ANSIOS(,-(KAPYEOUNPIEUP,PIEUP)),HIEUPH(,-(PIEUP,SIOS,THIEUTH)),IEUP(,-(C(HIEUCH,IEUC)",
  ",HIEUH,MIEUM,PHIEUPH,RIEUL(,-PHIEUPH),SIOS(,-TIKEUT),TIKEUT))),RIEUL(,-(HIEUH,K(APYEOUNPIEUP,H",
  "IEUKH,IYEOK(,-(HIEUH,SIOS))),MIEUM(,-(HIEUH,KIYEOK,SIOS)),NIEUN,P(ANSIOS,HIEUPH,IEUP(,-(HIEUH,",
  "PHIEUPH,SIOS,TIKEUT))),S(IOS,SANG(KIYEOK,SIOS)),T(HIEUTH,IKEUT(,-HIEUH)),YE(ORINHIEUH(,-HIEUH)",
  ",SIEUNG))),S(IOS(,-(C(HIEUCH,IEUC),HIEUH,K(APYEOUNPIEUP,IYEOK),MIEUM,P(ANSIOS,IEUP),RIEUL,T(HI",
  "EUTH,IKEUT))),SANG(CIEUC,IEUNG,KIYEOK,MIEUM,NIEUN,PIEUP,RIEUL(,-KHIEUKH),SIOS(,-(KIYEOK,TIKEUT",
  ")),TIKEUT(,-PIEUP),YESIEUNG)),T(HIEUTH,IKEUT(,-(C(HIEUCH,IEUC),KIYEOK,PIEUP,RIEUL,SIOS(,-KIYEO",
  "K),THIEUTH))),YE(ORINHIEUH,SIEUNG(,-(HIEUH,K(HIEUKH,IYEOK),MIEUM,PANSIOS,S(IOS,SANGKIYEOK)))))",
  ",UNGSEONG (A(,-(EU,O,U),E,RAEA(,-(A,E(,O),I,U))),E(,O(,-(EU,O,U)),U(,-(A,E(,O,U),O,U))),FILLER",
  ",I(,-(A(,RAEA),EU,I,O(,-I),U,Y(A(,-O,E),E(,O),O,U))),O(,-(E(,O),O(,-I),U,Y(A(,E),E(,O))),E),SS",
  "ANGARAEA,U(,-(A(,E),EO-EU,I-I,U,YE(,O))),W(A(,E),E(,O),I),Y(A(,-(O,U,YO),E),E(,O(,-(O,U,YA))),",
  "I(,-U),O(,-(A(,E),EO,I,O,Y(A(,E),EO))),U(,-(A(,E),E(,O),I,O,U,YE(,O)))))),LETTER (A(,E,RAEA(,E",
  ")),C(HIEUCH,IEUC),E(,O,U),HIEUH,I(,EUNG),K(APYEOUN(MIEUM,P(HIEUPH,IEUP),SSANGPIEUP),HIEUKH,IYE",
  "OK(,-SIOS)),MIEUM(,-(P(ANSIOS,IEUP),SIOS)),NIEUN(,-(CIEUC,HIEUH,PANSIOS,SIOS,TIKEUT)),O(,E),P(",
  "ANSIOS,HIEUPH,IEUP(,-(CIEUC,KIYEOK,SIOS(,-(KIYEOK,TIKEUT)),T(HIEUTH,IKEUT)))),RIEUL(,-(HIEUH,K",
  "IYEOK(,-SIOS),MIEUM,P(ANSIOS,HIEUPH,IEUP(,-SIOS)),SIOS,T(HIEUTH,IKEUT),YEORINHIEUH)),S(IOS(,-(",
  "CIEUC,KIYEOK,NIEUN,PIEUP,TIKEUT)),SANG(CIEUC,HIEUH,IEUNG,KIYEOK,NIEUN,PIEUP,SIOS,TIKEUT)),T(HI",
  "EUTH,IKEUT),U,W(A(,E),E(,O),I),Y(A(,E),E(,O(,RINHIEUH),SIEUNG(,-(PANSIOS,SIOS))),I,O(,-(I,YA(,",
  "E))),U(,-(I,YE(,O))))),SINGLE DOT TONE MARK),ZHOU NUMERAL (EIGHT,F(IVE,OUR),NINE,ONE,S(EVEN,IX",
  "),T(EN,H(IRTY,REE),W(ENTY,O)))),IFI ROHINGYA (DIGIT (EIGHT,F(IVE,OUR),NINE,ONE,S(EVEN,IX),T(HR",
  "EE,WO),ZERO),LETTER (A,BA,CA,D(A,DA),FA,GA,HA,JA,K(A,HA,INNA (WA,YA)),LA,MA,N(A,GA,YA),PA,R(A,",
  "RA),S(A,HA),T(A,TA),VA,WA,YA,ZA),MARK (NA KHONNA,SAKIN),SIGN (HARBAHAY,TA(HALA,NA,SSI)),VOWEL ",
  "(A,E,I,O,U)),UNOO (LETTER (A,BA,DA,GA,HA,I,KA,LA,MA,N(A,GA),PA,RA,SA,TA,U,WA,YA),SIGN PAMUDPOD",
  ",VOWEL SIGN (I,U))),PPY PERSON RAISING ONE HAND,RD DISK,T(CHING CHICK,RAN (LETTER (A(LEPH,YN),",
  "BETH,DALETH-RESH,GIMEL,HE(,TH),KAPH,LAMEDH,MEM,NUN,PE,QOPH,S(A(DHE,MEKH),HIN),T(AW,ETH),WAW,YO",
  "DH,ZAYN),NUMBER (FIVE,ONE(, HUNDRED),T(EN,WENTY))))),E(A(D(PHONE,STONE(, GRAVEYARD SYMBOL)),R(",
  "-NO-EVIL MONKEY,T (DECORATION,HANDS,WITH (ARROW,RIBBON,TIP ON THE LEFT))),VY (A(MPERSAND ORNAM",
  "ENT,RROW SHAFT WIDTH (ONE(, (HALF,THIRD)),TWO THIRDS),STERISK),B(ALLOT X,LACK( (CURVED (DOWNWA",
  "RDS AND RIGHTWARDS ARROW,UPWARDS AND RIGHTWARDS ARROW),HEART),-FEATHERED (NORTH EAST ARROW,RIG",
  "HTWARDS ARROW,SOUTH EAST ARROW))),C(HE(CK MARK,VRON SNOWFLAKE),IRCLE(, WITH (CIRCLE INSIDE,STR",
  "OKE AND TWO DOTS ABOVE),D SALTIRE),ONCAVE-POINTED BLACK RIGHTWARDS ARROW),D(ASHED TRIANGLE-HEA",
  "DED RIGHTWARDS ARROW,IVISION SIGN,O(LLAR SIGN,UBLE (COMMA QUOTATION MARK ORNAMENT,TURNED COMMA",
  " QUOTATION MARK ORNAMENT),WNWARDS ARROW WITH (EQUILATERAL ARROWHEAD,LARGE EQUILATERAL ARROWHEA",
  "D))),E(IGHT (POINTED (BLACK STAR,PINWHEEL STAR,RECTILINEAR BLACK STAR),SPOKED ASTERISK,TEARDRO",
  "P-SPOKED PROPELLER ASTERISK),QUALS SIGN,XCLAMATION MARK (ORNAMENT,SYMBOL)),F(IVE (POINTED BLAC",
  "K STAR,SPOKED ASTERISK),OUR BALLOON-SPOKED ASTERISK),GREEK CROSS,H(EART EXCLAMATION MARK ORNAM",
  "ENT,ORIZONTAL FILL),INTERROBANG ORNAMENT,L(A(RGE CIRCLE,TIN CROSS),EFT(-POINTING ANGLE (BRACKE",
  "T ORNAMENT,QUOTATION MARK ORNAMENT),WARDS ARROW WITH (EQUILATERAL ARROWHEAD,LARGE EQUILATERAL ",
  "ARROWHEAD)),IGATURE OPEN ET ORNAMENT,OW( (DOUBLE COMMA QUOTATION MARK ORNAMENT,SINGLE COMMA QU",
  "OTATION MARK ORNAMENT),ER RIGHT-SHADOWED WHITE RIGHTWARDS ARROW)),M(INUS SIGN,ULTIPLICATION X)",
  ",NORTH (EAST (ARROW,POINTING (BUD,VINE LEAF)),WEST POINTING (BUD,VINE LEAF)),O(PEN CENTRE CROS",
  "S,UTLINED BLACK STAR,VAL WITH OVAL INSIDE),PLUS SIGN,R(IGHT(-POINTING ANGLE (BRACKET ORNAMENT,",
  "QUOTATION MARK ORNAMENT),WARDS ARROW(, WITH (EQUILATERAL ARROWHEAD,LARGE EQUILATERAL ARROWHEAD",
  "))),OUND-TIPPED RIGHTWARDS ARROW),S(A(LTIRE,NS-SERIF INTERROBANG ORNAMENT),CRIPT LIGATURE ET O",
  "RNAMENT,I(NGLE (COMMA QUOTATION MARK ORNAMENT,TURNED COMMA QUOTATION MARK ORNAMENT),X (POINTED",
  " BLACK STAR,SPOKED ASTERISK)),OUTH (EAST (ARROW,POINTING (BUD,VINE LEAF)),WEST POINTING (BUD,V",
  "INE LEAF)),PARKLE),T(EARDROP-S(HANKED RIGHTWARDS ARROW,POKED (ASTERISK,PINWHEEL ASTERISK)),RIA",
  "NGLE-HEADED RIGHTWARDS ARROW,WELVE POINTED (BLACK STAR,PINWHEEL STAR)),UP(PER RIGHT-SHADOWED W",
  "HITE RIGHTWARDS ARROW,WARDS ARROW WITH (EQUILATERAL ARROWHEAD,LARGE EQUILATERAL ARROWHEAD)),VE",
  "RTICAL BAR,W(EDGE-TAILED RIGHTWARDS ARROW,HITE (CIRCLE,DOWN-POINTING TRIANGLE,SQUARE),IDE-HEAD",
  "ED RIGHTWARDS ARROW))),BREW (ACCENT (ATNAH HAFUKH,D(ARGA,EHI),ETNAHTA,GER(ESH(, MUQDAM),SHAYIM",
  "),ILUY,M(AHAPAKH,ERKHA(, KEFULA),UNAH),OLE,PA(SHTA,ZER),QA(DMA,RNEY PARA),REVIA,S(EGOL,HALSHEL",
  "ET),T(E(LISHA (GEDOLA,QETANA),VIR),IPEHA),YE(RAH BEN YOMO,TIV),Z(A(QEF (GADOL,QATAN),RQA),INOR",
  ")),L(ETTER (A(L(EF(, WITH (MAPIQ,PATAH,QAMATS)),TERNATIVE (AYIN,PLUS SIGN)),YIN),BET(, WITH (D",
  "AGESH,RAFE)),DALET(, WITH DAGESH),FINAL (KAF(, WITH DAGESH),MEM,NUN,PE(, WITH DAGESH),TSADI),G",
  "IMEL(, WITH DAGESH),HE(, WITH MAPIQ,T),KAF(, WITH (DAGESH,RAFE)),LAMED(, WITH DAGESH),MEM(, WI",
  "TH DAGESH),NUN(, WITH DAGESH),PE(, WITH (DAGESH,RAFE)),QOF(, WITH DAGESH),RESH(, WITH DAGESH),",
  "S(AMEKH(, WITH DAGESH),HIN(, WITH (DAGESH(, AND S(HIN DOT,IN DOT)),S(HIN DOT,IN DOT)))),T(AV(,",
  " WITH DAGESH),ET(, WITH DAGESH),SADI(, WITH DAGESH)),VAV(, WITH (DAGESH,HOLAM)),WIDE (ALEF,DAL",
  "ET,FINAL MEM,HE,KAF,LAMED,RESH,TAV),YOD(, WITH (DAGESH,HIRIQ)),ZAYIN(, WITH DAGESH)),IGATURE (",
  "ALEF LAMED,YIDDISH (DOUBLE (VAV,YOD),VAV YOD,YOD YOD PATAH))),MARK (LOWER DOT,MASORA CIRCLE,UP",
  "PER DOT),P(OINT (DAGESH OR MAPIQ,H(ATAF (PATAH,QAMATS,SEGOL),IRIQ,OLAM(, HASER FOR VAV)),JUDEO",
  "-SPANISH VARIKA,METEG,PATAH,Q(AMATS(, QATAN),UBUTS),RAFE,S(EGOL,H(EVA,IN DOT),IN DOT),TSERE),U",
  "NCTUATION (GER(ESH,SHAYIM),MAQAF,NUN HAFUKHA,PASEQ,SOF PASUQ)),YOD TRIANGLE),DGEHOG,L(ICOPTER,",
  "LSCHREIBER PAUSE SYMBOL,M( SYMBOL,ET WITH WHITE CROSS)),NTAIGANA LETTER (A-(1,2,3,WO),E-(1,2,3",
  ",4,5,6),H(A-(1(,0,1),2,3,4,5,6,7,8,9),E-(1,2,3,4,5,6,7),I-(1,2,3,4,5,6,7),O-(1,2,3,4,5,6,7,8),",
  "U-(1,2,3)),I-(1,2,3,4),K(A-(1(,0,1),2,3,4,5,6,7,8,9,KE),E-(1,2,3,4,5,6),I-(1,2,3,4,5,6,7,8),O-",
  "(1,2,3,KI),U-(1,2,3,4,5,6,7)),M(A-(1,2,3,4,5,6,7),E-(1,2,MA),I-(1,2,3,4,5,6,7),O-(1,2,3,4,5,6)",
  ",U-(1,2,3,4)),N(-MU-MO-(1,2),A-(1,2,3,4,5,6,7,8,9),E-(1,2,3,4,5,6,KO),I-(1,2,3,4,5,6,7,TE),O-(",
  "1,2,3,4,5),U-(1,2,3)),O-(1,2,3),R(A-(1,2,3,4),E-(1,2,3,4),I-(1,2,3,4,5,6,7),O-(1,2,3,4,5,6),U-",
  "(1,2,3,4,5,6)),S(A-(1,2,3,4,5,6,7,8),E-(1,2,3,4,5),I-(1,2,3,4,5,6),O-(1,2,3,4,5,6,7),U-(1,2,3,",
  "4,5,6,7,8)),T(A-(1,2,3,4),E-(1,2,3,4,5,6,7,8,9),I-(1,2,3,4,5,6,7),O-(1,2,3,4,5,6,RA),U-(1,2,3,",
  "4,TO)),U-(1,2,3,4,5),W(A-(1,2,3,4,5),E-(1,2,3,4),I-(1,2,3,4,5),O-(1,2,3,4,5,6,7)),Y(A-(1,2,3,4",
  ",5,YO),O-(1,2,3,4,5,6),U-(1,2,3,4))),R(B,MITIAN CONJUGATE MATRIX),XAGRAM FOR (A(BUNDANCE,FTER ",
  "COMPLETION,PPROACH),B(EFORE COMPLETION,ITING THROUGH,REAKTHROUGH),CO(MING TO MEET,N(FLICT,TEMP",
  "LATION)),D(ARKENING OF THE LIGHT,E(CREASE,LIVERANCE,VELOPMENT),I(FFICULTY AT THE BEGINNING,SPE",
  "RSION),URATION),ENTHUSIASM,F(ELLOWSHIP,OLLOWING),G(ATHERING TOGETHER,R(ACE,EAT (P(O(SSESSION,W",
  "ER),REPONDERANCE),TAMING))),HOLDING TOGETHER,IN(CREASE,FLUENCE,N(ER TRUTH,OCENCE)),LIMITATION,",
  "MO(DESTY,UTH CORNERS),O(BSTRUCTION,PP(OSITION,RESSION)),P(EACE,ROGRESS,USHING UPWARD),RE(T(REA",
  "T,URN),VOLUTION),S(MALL (PREPONDERANCE,TAMING),PLITTING APART,TANDSTILL),T(HE (A(BYSMAL WATER,",
  "R(MY,OUSING THUNDER)),C(AULDRON,LINGING FIRE,REATIVE HEAVEN),FAMILY,GENTLE WIND,JOYOUS LAKE,KE",
  "EPING STILL MOUNTAIN,MARRYING MAIDEN,RECEPTIVE EARTH,W(ANDERER,ELL)),READING),W(AITING,ORK ON ",
  "THE DECAYED),YOUTHFUL FOLLY)),I(BISCUS,GH( (BRIGHTNESS SYMBOL,OCTET PRESET,VOLTAGE SIGN),-(HEE",
  "LED SHOE,SPEED TRAIN(, WITH BULLET NOSE))),KING BOOT,NDU TEMPLE,PPOPOTAMUS,RAGANA (DIGRAPH YOR",
  "I,ITERATION MARK,LETTER (A(,RCHAIC (WU,YE)),B(A,E,I,O,U),D(A,E,I,O,U),E,G(A,E,I,O,U),H(A,E,I,O",
  ",U),I,K(A,E,I,O,U),M(A,E,I,O,U),N(,A,E,I,O,U),O,P(A,E,I,O,U),R(A,E,I,O,U),S(A,E,I,MALL (A,E,I,",
  "K(A,E),O,TU,U,W(A,E,I,O),Y(A,O,U)),O,U),T(A,E,I,O,U),U,VU,W(A,E,I,O),Y(A,O,U),Z(A,E,I,O,U)),VO",
  "ICED ITERATION MARK),STORIC SITE),O(CHO,L(E,LOW QUILT SQUARE ORNAMENT(, IN BLACK SQUARE)),MOTH",
  "ETIC,NEY( POT,BEE),OK,P,R(IZONTAL (B(AR,LACK (HEXAGON,OCTAGON)),ELLIPSIS,LINE EXTENSION,MALE W",
  "ITH STROKE SIGN,ONE EIGHTH BLOCK-(1358,2,3,4,5,6,7),SCAN LINE-(1,3,7,9),T(AB( KEY,ULATION(, (S",
  "ET,WITH JUSTIFICATION))),RAFFIC LIGHT)),SE(, (FACE,RACING))),SPITAL,T( (BEVERAGE,DOG,PEPPER,SP",
  "RINGS),EL),U(RGLASS(, WITH FLOWING SAND),SE(, (BUILDING(,S),WITH GARDEN)))),RYVNIA SIGN,T(,J,S",
  "),U(GGING FACE,NDRED POINTS SYMBOL,SHED FACE,T),Y(GIEA,P(HEN(, (BULLET,WITH DIAERESIS),-MINUS,",
  "ATION POINT),ODIASTOLE),STERESIS SYMBOL))"]

/-- The names that start with I. -/
def startingWithI : List String := [
  "I( LOVE YOU HAND SIGN,CE (C(REAM,UBE),HOCKEY STICK AND PUCK,SKATE),DE(NTI(CAL (TO(, AND SLANTE",
  "D PARALLEL),WITH DOT ABOVE),FICATION CARD),OGRAPHIC (ANNOTATION (BOTTOM MARK,EARTH MARK,F(IRST",
  " MARK,OUR( MARK,TH MARK)),HEAVEN MARK,LINKING MARK,M(AN MARK,IDDLE MARK),ONE MARK,REVERSE MARK",
  ",SECOND MARK,T(H(IRD MARK,REE MARK),OP MARK,WO MARK)),C(LOSING MARK,OMMA),DE(PARTING TONE MARK",
  ",SCRIPTION CHARACTER (ABOVE TO (BELOW,MIDDLE AND BELOW),FULL SURROUND,LEFT TO (MIDDLE AND RIGH",
  "T,RIGHT),OVERLAID,SURROUND FROM (ABOVE,BELOW,L(EFT,OWER LEFT),UPPER (LEFT,RIGHT)))),ENTERING T",
  "ONE MARK,FULL STOP,HALF FILL SPACE,ITERATION MARK,LEVEL TONE MARK,NUMBER ZERO,RISING TONE MARK",
  ",SPACE,T(ALLY MARK (F(IVE,OUR),ONE,T(HREE,WO)),ELEGRAPH (LINE FEED SEPARATOR SYMBOL,SYMBOL FOR",
  " (A(PRIL,UGUST),D(AY (E(IGHT(,EEN),LEVEN),F(I(FTEEN,VE),OUR(,TEEN)),NINE(,TEEN),ONE,S(EVEN(,TE",
  "EN),IX(,TEEN)),T(EN,H(IRT(EEN,Y(,-ONE)),REE),W(E(LVE,NTY(,-(EIGHT,F(IVE,OUR),NINE,ONE,S(EVEN,I",
  "X),T(HREE,WO)))),O))),ECEMBER),FEBRUARY,HOUR (E(IGHT(,EEN),LEVEN),F(I(FTEEN,VE),OUR(,TEEN)),NI",
  "NE(,TEEN),ONE,S(EVEN(,TEEN),IX(,TEEN)),T(EN,H(IRTEEN,REE),W(E(LVE,NTY(,-(FOUR,ONE,T(HREE,WO)))",
  "),O)),ZERO),J(ANUARY,U(LY,NE)),MA(RCH,Y),NOVEMBER,OCTOBER,SEPTEMBER))),VARIATION INDICATOR)),M",
  "(AGE OF(, OR APPROXIMATELY EQUAL TO),P(,ERIAL ARAMAIC (LETTER (A(LEPH,YIN),BETH,DALETH,GIMEL,H",
  "E(,TH),KAPH,LAMEDH,MEM,NUN,PE,QOPH,RESH,S(A(DHE,MEKH),HIN),T(AW,ETH),WAW,YODH,ZAYIN),NUMBER (O",
  "NE(, (HUNDRED,THOUSAND)),T(EN(, THOUSAND),HREE,W(ENTY,O))),SECTION SIGN))),N(BOX TRAY,C(OM(ING",
  " ENVELOPE,PLETE INFINITY),RE(ASE( FONT SIZE SYMBOL,S AS),MENT)),D(,EX(, POINTING AT THE VIEWER",
  "),I(AN RUPEE SIGN,C SIYAQ (ALTERNATE LAKH MARK,FRACTION (ONE (HALF,QUARTER),THREE QUARTERS),LA",
  "KH MARK,NUMBER (ALTERNATE (ONE,T(EN THOUSAND,WO)),EIGHT(, (HUNDRED,THOUSAND),Y(, THOUSAND)),F(",
  "I(FTY(, THOUSAND),VE(, (HUNDRED,THOUSAND))),O(RTY(, THOUSAND),UR(, (HUNDRED,THOUSAND)))),KAROR",
  "(,AN),LAKH(,AN),NINE(, (HUNDRED,THOUSAND),TY(, THOUSAND)),ONE(, (HUNDRED,THOUSAND)),PREFIXED (",
  "EIGHT,F(IVE,OUR),NINE,ONE,S(EVEN,IX),T(HREE,WO)),S(EVEN(, (HUNDRED,THOUSAND),TY(, THOUSAND)),I",
  "X(, (HUNDRED,THOUSAND),TY(, THOUSAND))),T(EN(, THOUSAND),H(IRTY(, THOUSAND),REE(, (HUNDRED,THO",
  "USAND))),W(ENTY(, THOUSAND),O(, (HUNDRED,THOUSAND))))),PLACEHOLDER,RUPEE MARK))),F(INITY(, NEG",
  "ATED WITH VERTICAL BAR),ORMATION (DESK PERSON,S(EPARATOR (FOUR,ONE,T(HREE,WO)),OURCE))),HIBIT ",
  "(ARABIC FORM SHAPING,SYMMETRIC SWAPPING),PUT SYMBOL FOR (LATIN (CAPITAL LETTERS,LETTERS,SMALL ",
  "LETTERS),NUMBERS,SYMBOLS),S(CRIPTIONAL PA(HLAVI (LETTER (ALEPH,BETH,DALETH,GIMEL,HE(,TH),KAPH,",
  "LAMEDH,MEM-QOPH,NUN,PE,S(A(DHE,MEKH),HIN),T(AW,ETH),WAW-AYIN-RESH,YODH,ZAYIN),NUMBER (FOUR,ONE",
  "(, (HUNDRED,THOUSAND)),T(EN,HREE,W(ENTY,O)))),RTHIAN (LETTER (A(LEPH,YIN),BETH,DALETH,GIMEL,HE",
  "(,TH),KAPH,LAMEDH,MEM,NUN,PE,QOPH,RESH,S(A(DHE,MEKH),HIN),T(AW,ETH),WAW,YODH,ZAYIN),NUMBER (FO",
  "UR,ONE(, (HUNDRED,THOUSAND)),T(EN,HREE,W(ENTY,O))))),ERTION SYMBOL),TE(GRAL(, (A(ROUND A POINT",
  " OPERATOR,VERAGE WITH SLASH),EXTENSION,WITH (DOUBLE STROKE,INTERSECTION,LEFTWARDS ARROW WITH H",
  "OOK,OVERBAR,TIMES SIGN,UN(DERBAR,ION)))),R(CALATE,IOR PRODUCT,L(INEAR ANNOTATION (ANCHOR,SEPAR",
  "ATOR,TERMINATOR),OCKED FEMALE AND MALE SIGN),ROBANG,SECTION(, (ABOVE (BAR ABOVE UNION,UNION),B",
  "ESIDE AND JOINED WITH INTERSECTION,WITH (DOT,LOGICAL AND,OVERBAR))))),V(ER(SE (BULLET,CHECK( M",
  "ARK,ER BOARD FILL),DOWNWARDS ARROW WITH TIP LEFTWARDS,MEDIUM SHADE,WHITE CIRCLE),TED (EXCLAMAT",
  "ION MARK,INTERROBANG,L(AZY S,OW KAVYKA(, WITH KAVYKA ABOVE)),OHM SIGN,PENTAGRAM,QUESTION MARK,",
  "UNDERTIE)),ISIBLE (PLUS,SEPARATOR,TIMES))),ZAKAYA LANTERN)"]

/-- The names that start with J. -/
def startingWithJ : List String := [
  "J(A(CK-O-LANTERN,PANESE (BANK SYMBOL,CASTLE,DOLLS,GOBLIN,INDUSTRIAL STANDARD SYMBOL,OGRE,POST ",
  "OFFICE,SYMBOL FOR BEGINNER),R,VANESE (CONSONANT SIGN (CAKRA,KERET,PENGKAL),DIGIT (EIGHT,F(IVE,",
  "OUR),NINE,ONE,S(EVEN,IX),T(HREE,WO),ZERO),LE(FT RERENGGAN,TTER (A(,I),BA(, MURDA),CA(, MURDA),",
  "D(A(, MAHAPRANA),DA(, MAHAPRANA)),E,GA(, MURDA),HA,I(, KAWI,I),JA(, MAHAPRANA),KA(, (MURDA,SAS",
  "AK)),LA,MA,N(A(, MURDA),GA(, LELET(, RASWADI)),YA(, MURDA)),O,PA(, (CEREK,MURDA)),RA(, AGUNG),",
  "SA(, M(AHAPRANA,URDA)),T(A(, MURDA),TA(, MAHAPRANA)),U,WA,YA)),PA(DA (A(DEG(, ADEG),NDAP),ISEN",
  "-ISEN,L(INGSA,U(HUR,NGSI)),MADYA,P(ANGKAT,ISELEH),TIRTA TUMETES,WINDU),NG(KON,RANGKEP)),RIGHT ",
  "RERENGGAN,SIGN (CECAK(, TELU),LAYAR,PANYANGGA,WIGNYAN),TURNED PADA PISELEH,VOWEL SIGN (DIRGA M",
  "URE,PEPET,SUKU(, MENDUT),T(A(LING,RUNG),OLONG),WULU(, MELIK)))),EANS,IGSAW PUZZLE PIECE,O(IN,Y",
  "STICK),U(GGLING,NO,PITER))"]

/-- The names that start with K. -/
def startingWithK : List String := [
  "K(A(ABA,ITHI (ABBREVIATION SIGN,D(ANDA,OUBLE (DANDA,SECTION MARK)),ENUMERATION SIGN,LETTER (A(",
  ",A,I,U),B(A,HA),C(A,HA),D(A,D(A,DHA,HA),HA),E,G(A,HA),HA,I(,I),J(A,HA),K(A,HA),LA,MA,N(A,GA,NA",
  ",YA),O,P(A,HA),R(A,HA),S(A,HA,SA),T(A,HA,T(A,HA)),U(,U),VA,YA),NUMBER SIGN(, ABOVE),S(ECTION M",
  "ARK,IGN (ANUSVARA,CANDRABINDU,NUKTA,VI(RAMA,SARGA))),VOWEL SIGN (A(A,I,U),E,I(,I),O,U(,U),VOCA",
  "LIC R)),N(G(AROO,XI RADICAL (A(GAIN,ND,RR(IVE,OW),XE),B(A(DGER,MBOO),EAN,I(G,RD,TTER),L(ACK,OO",
  "D,UE),O(AT,DY,LT OF CLOTH,NE,W),R(ANCH,ISTLE,USH)),C(A(RT,ULDRON,VE),HILD,ITY,L(A(N,W),IFF,OTH",
  "ES),O(LOR,MPARE,RPSE,VER,W)),D(E(ATH,ER),I(PPER,S(H,TINGUISH),VINATION),O( NOT,G,OR,T(,TED (CL",
  "IFF,TENT)),UBLE X,WN BOX),R(AGON,UM,Y)),E(A(R(,TH),T),IGHT,MBROIDERY,N(CLOSURE,TER),VEN(,ING),",
  "YE),F(A(CE,NG,THER),EATHER,I(ELD,GHT,RE,SH),L(UTE,Y),OOT,R(AGRANT,OG),UR),G(ATE,HOST,O(, SLOWL",
  "Y,LD),RA(IN,SS)),H(A(IR,L(BERD,F TREE TRUNK),ND),E(A(D,RT),MP),IDING ENCLOSURE,O(OK,R(N,SE))),",
  "I(CE,N(CH,SECT)),JA(DE,R),KNIFE,L(A(CK,ME),E(A(F,THER),EK,GS),I(D,FE,NE),ONG(, STRIDE)),M(AN,E",
  "(AT,LON),I(LLET,NISTER),O(ON,R(NING,TAR),U(N(D,TAIN),TH))),N(ET,O(SE,T)),O(LD,NE(,SELF),P(EN B",
  "OX,POSE)),P(IG,LOW,OWER,R(IVATE,OFOUND)),R(A(IN,P,T),ED,I(CE,GHT OPEN BOX,VER),OOF,UN),S(A(CRI",
  "FICIAL WINE,LT,Y),C(HOLAR,RIPT),E(AL,COND,E,LF),H(E(EP,LL),O(OT,RT T(AILED BIRD,HREAD))),I(CKN",
  "ESS,LK),KIN,L(A(SH,VE),ICE),MALL,NOUT,OUND,P(E(AR,ECH),IRIT,OON,ROUT),QUARE,T(AND,E(AM,P),O(NE",
  ",P(,PING))),UN,WEET),T(A(BLE,LL,NNED LEATHER),EN,I(GER,LE),O(NGUE,OTH),R(ACK,EE,IPOD),UR(BAN,T",
  "LE),WO(, HANDS)),USE,V(ALLEY,ILLAGE),W(A(LK(, ENCLOSURE),TER),E(APON,ST),H(EAT,ITE),IN(D,E),O(",
  "MAN,RK),R(AP,ONG)),YELLOW)),NADA (AI LENGTH MARK,DIGIT (EIGHT,F(IVE,OUR),NINE,ONE,S(EVEN,IX),T",
  "(HREE,WO),ZERO),LE(NGTH MARK,TTER (A(,A,I,U),B(A,HA),C(A,HA),D(A,D(A,HA),HA),E(,E),FA,G(A,HA),",
  "HA,I(,I),J(A,HA),K(A,HA),L(A,L(A,LA)),MA,N(A(,KAARA POLLU),GA,NA,YA),O(,O),P(A,HA),R(A,RA),S(A",
  ",HA,SA),T(A,HA,T(A,HA)),U(,U),V(A,OCALIC (L(,L),R(,R))),YA)),SIGN (A(NUSVARA,VAGRAHA),CANDRABI",
  "NDU,JIHVAMULIYA,NUKTA,S(IDDHAM,PACING CANDRABINDU),UPADHMANIYA,VI(RAMA,SARGA)),VOWEL SIGN (A(A",
  ",I,U),E(,E),I(,I),O(,O),U(,U),VOCALIC (L(,L),R(,R))))),TAKANA( (DIGRAPH KOTO,ITERATION MARK,LE",
  "TTER (A(,RCHAIC (E,WU,Y(E,I))),B(A,E,I,O,U),D(A,E,I,O,U),E,G(A,E,I,O,U),H(A,E,I,O,U),I,K(A,E,I",
  ",O,U),M(A,E,I(,NNAN (NASALIZED TONE-(1,2,3,4,5,7,8),TONE-(2,3,4,5,7,8))),O,U),N(,A,E,I,O,U),O,",
  "P(A,E,I,O,U),R(A,E,I,O,U),S(A,E,I,MALL (A,E,H(A,E,I,O,U),I,K(A,E,U),MU,N(,U),O,R(A,E,I,O,U),S(",
  "I,U),T(O,U),U,W(A,E,I,O),Y(A,O,U)),O,U),T(A,E,I,O,U),U,V(A,E,I,O,U),W(A,E,I,O),Y(A,O,U),Z(A,E,",
  "I,O,U)),MIDDLE DOT,VOICED ITERATION MARK),-HIRAGANA (DOUBLE HYPHEN,PROLONGED SOUND MARK,SEMI-V",
  "OICED SOUND MARK,VOICED SOUND MARK)),YAH LI (DIGIT (EIGHT,F(IVE,OUR),NINE,ONE,S(EVEN,IX),T(HRE",
  "E,WO),ZERO),LETTER (A,BA,CA,DA,GA,H(A,TA),I,K(A,HA),LA,MA,N(A,GA,YA),O(E,O),P(A,HA),RA,S(A,HA)",
  ",T(A,HA),VA,WA,YA,ZA),SIGN (CWI,SHYA),TONE (CALYA(, PLOPHU),PLOPHU),VOWEL (E(,E),O,U(,E)))),E(",
  "LVIN SIGN,Y(,BOARD(, AND MOUSE),CAP TEN)),H(AROSHTHI (DIGIT (FOUR,ONE,T(HREE,WO)),FRACTION ONE",
  " HALF,LETTER (A,B(A,HA),C(A,HA),D(A,D(A,HA),HA),G(A,HA),HA,JA,K(A,HA,KA),LA,MA,N(A,NA,YA),P(A,",
  "HA),RA,S(A,HA,SA),T(A,HA,T(A,HA,T(A,HA))),V(A,HA),YA,ZA),NUMBER (ONE (HUNDRED,THOUSAND),T(EN,W",
  "ENTY)),PUNCTUATION (C(IRCLE,RESCENT BAR),D(ANDA,O(T,UBLE DANDA)),L(INES,OTUS),MANGALAM,SMALL C",
  "IRCLE),SIGN (ANUSVARA,BAR ABOVE,CAUDA,DO(T BELOW,UBLE RING BELOW),VISARGA),V(IRAMA,OWEL (LENGT",
  "H MARK,SIGN (E,I,O,U,VOCALIC R)))),ITAN SMALL SCRIPT FILLER,MER (CURRENCY SYMBOL RIEL,DIGIT (E",
  "IGHT,F(IVE,OUR),NINE,ONE,S(EVEN,IX),T(HREE,WO),ZERO),INDEPENDENT VOWEL (LY(,Y),Q(A(A,I,Q,U),E,",
  "I(,I),OO TYPE (ONE,TWO),U(,K,U(,V))),RY(,Y)),LETTER (BA,C(A,H(A,O),O),D(A,O),HA,K(A,H(A,O),O),",
  "L(A,O),MO,N(GO,NO,O,YO),P(H(A,O),O),QA,RO,S(A,HA,SO),T(A,H(A,O),O,TH(A,O)),VO,YO),S(IGN (A(HSD",
  "A,TTHACAN,VAKRAHASANYA),B(A(NTOC,RIYOOSAN,THAMASAT),EYYAL),C(AMNUC PII KUUH,OENG),K(AKABAT,HAN",
  ",OOMUUT),LEK TOO,MUUSIKATOAN,NIKAHIT,PHNAEK MUAN,R(EAHMUK,OBAT),SAMYOK SANNYA,T(OANDAKHIAT,RII",
  "SAP),VIRIAM,YUUKALEAPINTU),YMBOL (B(EI (KOET,ROC),UON (KOET,ROC)),DAP( (KOET,ROC),-(B(EI (KOET",
  ",ROC),UON (KOET,ROC)),MUOY (KOET,ROC),P(II (KOET,ROC),RAM (KOET,ROC)))),LEK ATTAK (B(EI,UON),M",
  "UOY,P(II,RAM(,-(B(EI,UON),MUOY,PII))),SON),MUOY (KOET,ROC),P(ATHAMASAT,II (KOET,ROC),RAM( (KOE",
  "T,ROC),-(B(EI (KOET,ROC),UON (KOET,ROC)),MUOY (KOET,ROC),PII (KOET,ROC)))),TUTEYASAT)),VOWEL (",
  "INHERENT A(A,Q),SIGN (A(A,E,I,U),E,I(,E,I),O(E,O),U(,A,U),Y(,A,Y)))),OJKI (ABBREVIATION SIGN,D",
  "(ANDA,OUBLE (DANDA,SECTION MARK)),LETTER (A(,A,I,U),B(A,BA,HA),C(A,HA),D(A,D(A,DA,HA),HA),E,G(",
  "A,GA,HA),HA,I,J(A,JA),K(A,HA),L(A,LA),MA,N(A,GA,NA,YA),O,P(A,HA),RA,SA,T(A,HA,T(A,HA)),U,VA,YA",
  "),S(ECTION MARK,IGN (ANUSVARA,NUKTA,S(HADDA,UKUN),VIRAMA)),VOWEL SIGN (A(A,I,U),E,I(,I),O,U),W",
  "ORD SEPARATOR),UDAWADI (DIGIT (EIGHT,F(IVE,OUR),NINE,ONE,S(EVEN,IX),T(HREE,WO),ZERO),LETTER (A",
  "(,A,I,U),B(A,BA,HA),C(A,HA),D(A,D(A,DA,HA),HA),E,G(A,GA,HA),HA,I(,I),J(A,HA,JA),K(A,HA),LA,MA,",
  "N(A,GA,NA,YA),O,P(A,HA),R(A,RA),S(A,HA),T(A,HA,T(A,HA)),U(,U),VA,YA),SIGN (ANUSVARA,NUKTA,VIRA",
  "MA),VOWEL SIGN (A(A,I,U),E,I(,I),O,U(,U)))),I(MONO,P SIGN,SS(, MARK,ING (CAT FACE WITH CLOSED ",
  "EYES,FACE(, WITH (CLOSED EYES,SMILING EYES)))),TE,WIFRUIT),N(EELING PERSON,OT),O(ALA,REAN STAN",
  "DARD SYMBOL),RONOS)"]

/-- The names that start with L. -/
def startingWithL : List String := [
  "L( B BAR SYMBOL,A(B( COAT,EL),CROSSE STICK AND BALL,D(DER,Y BEETLE),NGUAGE TAG,O (CANCELLATION",
  " MARK,DIGIT (EIGHT,F(IVE,OUR),NINE,ONE,S(EVEN,IX),T(HREE,WO),ZERO),ELLIPSIS,HO (MO,NO),KO LA,L",
  "ETTER (BO,CO,DO,FO (F(AY,ON),SUNG,TAM),HO (SUNG,TAM),K(H(MU (GO,NYO),O (SUNG,TAM)),O),LO(, L(I",
  "NG,OOT)),MO,N(GO,O,YO),O,P(ALI (BHA,CHA,D(D(A,HA),HA),GHA,JHA,LLA,N(NA,YA),TT(A,HA)),HO (SUNG,",
  "TAM),O),RO,S(ANSKRIT S(HA,SA),O (SUNG,TAM)),T(HO (SUNG,TAM),O),WO,YO),NIGGAHITA,S(EMIVOWEL SIG",
  "N (LO,NYO),IGN PALI VIRAMA),TONE MAI (CATAWA,EK,T(HO,I)),VOWEL SIGN (A(,A,I,M,Y),E(,I),I(,I),M",
  "AI K(AN,ON),O,U(,U),Y(,Y))),R(GE( (B(LUE (CIRCLE,DIAMOND,SQUARE),ROWN (CIRCLE,SQUARE)),CIRCLE,",
  "DOWN TACK,GREEN (CIRCLE,SQUARE),LEFT TRIANGLE OPERATOR,O(NE (DOT OVER TWO DOTS PUNCTUATION,RIN",
  "G OVER TWO RINGS PUNCTUATION),RANGE (CIRCLE,DIAMOND,SQUARE)),PURPLE (CIRCLE,SQUARE),RED (CIRCL",
  "E,SQUARE),T(RIPLE VERTICAL BAR OPERATOR,WO (DOTS OVER ONE DOT PUNCTUATION,RINGS OVER ONE RING ",
  "PUNCTUATION)),UP TACK,YELLOW (CIRCLE,SQUARE)),R THAN(, OR EQUAL TO)),I SIGN),ST QUARTER MOON(,",
  " (SYMBOL,WITH FACE)),TIN (C(APITAL L(ETTER (A(, WITH (ACUTE,BREVE(, AND (ACUTE,DOT BELOW,GRAVE",
  ",HOOK ABOVE,TILDE)),C(ARON,IRCUMFLEX(, AND (ACUTE,DOT BELOW,GRAVE,HOOK ABOVE,TILDE))),D(IAERES",
  "IS(, AND MACRON),O(T (ABOVE(, AND MACRON),BELOW),UBLE GRAVE)),GRAVE,HOOK ABOVE,INVERTED BREVE,",
  "MACRON,OGONEK,RING (ABOVE(, AND ACUTE),BELOW),STROKE,TILDE),A,E(, WITH (ACUTE,MACRON)),FRICAN ",
  "D,LPHA,NGLICANA W,O,U,V(, WITH HORIZONTAL BAR),Y),B(, WITH (DOT (ABOVE,BELOW),FLOURISH,HOOK,LI",
  "NE BELOW,STROKE,TOPBAR),ETA,ROKEN L),C(, WITH (ACUTE,BAR,C(ARON,EDILLA(, AND ACUTE),IRCUMFLEX)",
  ",DOT ABOVE,HOOK,PALATAL HOOK,STROKE),HI,LOSED INSULAR G,ON,UATRILLO(, WITH COMMA)),D(, WITH (C",
  "(ARON,EDILLA,IRCUMFLEX BELOW),DOT (ABOVE,BELOW),HOOK,LINE BELOW,S(HORT STROKE OVERLAY,MALL LET",
  "TER Z(, WITH CARON),TROKE),TOPBAR),Z(, WITH CARON)),E(, WITH (ACUTE,BREVE,C(ARON,EDILLA(, AND ",
  "BREVE),IRCUMFLEX(, (AND (ACUTE,DOT BELOW,GRAVE,HOOK ABOVE,TILDE),BELOW))),D(IAERESIS,O(T (ABOV",
  "E,BELOW),UBLE GRAVE)),GRAVE,HOOK ABOVE,INVERTED BREVE,MACRON(, AND (ACUTE,GRAVE)),OGONEK,STROK",
  "E,TILDE(, BELOW)),GYPTOLOGICAL A(IN,LEF),NG,SH,T(,H),ZH(, (REVERSED,WITH CARON))),F(, WITH (DO",
  "T ABOVE,HOOK,STROKE)),G(, WITH (ACUTE,BREVE,C(ARON,EDILLA,IRCUMFLEX),DOT ABOVE,HOOK,MACRON,OBL",
  "IQUE STROKE,STROKE),AMMA,HA,LOTTAL (A,I,STOP,U)),H(, WITH (BREVE BELOW,C(ARON,EDILLA,IRCUMFLEX",
  "),D(ESCENDER,IAERESIS,OT (ABOVE,BELOW)),HOOK,STROKE),ALF H,ENG,WAIR),I(, WITH (ACUTE,BREVE,C(A",
  "RON,IRCUMFLEX),D(IAERESIS(, AND ACUTE),O(T (ABOVE,BELOW),UBLE GRAVE)),GRAVE,HOOK ABOVE,INVERTE",
  "D BREVE,MACRON,OGONEK,STROKE,TILDE(, BELOW)),NSULAR (D,F,G,R,S,T),OTA,S),J(, WITH (C(IRCUMFLEX",
  ",ROSSED-TAIL),STROKE)),K(, WITH (ACUTE,C(ARON,EDILLA),D(ESCENDER,IAGONAL STROKE,OT BELOW),HOOK",
  ",LINE BELOW,OBLIQUE STROKE,STROKE(, AND DIAGONAL STROKE))),L(, WITH (ACUTE,B(AR,ELT),C(ARON,ED",
  "ILLA,IRCUMFLEX BELOW),DO(T BELOW(, AND MACRON),UBLE BAR),HIGH STROKE,LINE BELOW,MIDDLE (DOT,TI",
  "LDE),S(MALL LETTER J,TROKE)),J),M(, WITH (ACUTE,DOT (ABOVE,BELOW),HOOK),IDDLE( SCOTS S,-WELSH ",
  "(LL,V))),N(, WITH (ACUTE,C(ARON,EDILLA,IRCUMFLEX BELOW),D(ESCENDER,OT (ABOVE,BELOW)),GRAVE,L(E",
  "FT HOOK,INE BELOW,ONG RIGHT LEG),OBLIQUE STROKE,SMALL LETTER J,TILDE),J),O(, WITH (ACUTE,BREVE",
  ",C(ARON,IRCUMFLEX(, AND (ACUTE,DOT BELOW,GRAVE,HOOK ABOVE,TILDE))),D(IAERESIS(, AND MACRON),O(",
  "T (ABOVE(, AND MACRON),BELOW),UBLE (ACUTE,GRAVE))),GRAVE,HO(OK ABOVE,RN(, AND (ACUTE,DOT BELOW",
  ",GRAVE,HOOK ABOVE,TILDE))),INVERTED BREVE,LO(NG STROKE OVERLAY,OP),M(ACRON(, AND (ACUTE,GRAVE)",
  "),IDDLE TILDE),OGONEK(, AND MACRON),STROKE(, AND ACUTE),TILDE(, AND (ACUTE,DIAERESIS,MACRON)))",
  ",I,LD POLISH O,MEGA,O,PEN (E,O),U),P(, WITH (ACUTE,DOT ABOVE,FLOURISH,HOOK,S(QUIRREL TAIL,TROK",
  "E(, THROUGH DESCENDER)))),Q(, WITH (DIAGONAL STROKE,STROKE THROUGH DESCENDER)),R(, (ROTUNDA,WI",
  "TH (ACUTE,C(ARON,EDILLA),DO(T (ABOVE,BELOW(, AND MACRON)),UBLE GRAVE),INVERTED BREVE,LINE BELO",
  "W,OBLIQUE STROKE,STROKE,TAIL)),EVERSED (C WITH DOT,E,HALF H,OPEN E),UM ROTUNDA),S(, WITH (ACUT",
  "E(, AND DOT ABOVE),C(ARON(, AND DOT ABOVE),EDILLA,IRCUMFLEX,OMMA BELOW),DOT (ABOVE,BELOW(, AND",
  " DOT ABOVE)),HOOK,OBLIQUE STROKE,S(HORT STROKE OVERLAY,WASH TAIL)),ALTILLO,C(HWA,RIPT G),HARP ",
  "S,IGMOID S,MALL (CAPITAL I,Q WITH HOOK TAIL)),T(, WITH (C(ARON,EDILLA,IRCUMFLEX BELOW,OMMA BEL",
  "OW),D(IAGONAL STROKE,OT (ABOVE,BELOW)),HOOK,LINE BELOW,RETROFLEX HOOK,STROKE),HORN(, WITH STRO",
  "KE(, THROUGH DESCENDER)),ONE (FIVE,SIX,TWO),RESILLO,URNED (A(,LPHA),H,INSULAR G,K,L,M,T,V),Z),",
  "U(, (BAR,WITH (ACUTE,BREVE,C(ARON,IRCUMFLEX(, BELOW)),D(IAERESIS(, (AND (ACUTE,CARON,GRAVE,MAC",
  "RON),BELOW)),O(T BELOW,UBLE (ACUTE,GRAVE))),GRAVE,HO(OK ABOVE,RN(, AND (ACUTE,DOT BELOW,GRAVE,",
  "HOOK ABOVE,TILDE))),INVERTED BREVE,MACRON(, AND DIAERESIS),OGONEK,RING ABOVE,STROKE,TILDE(, (A",
  "ND ACUTE,BELOW)))),PSILON),V(, WITH (D(IAGONAL STROKE,OT BELOW),HOOK,TILDE),END,ISIGOTHIC Z,OL",
  "APUK (AE,OE,UE),Y),W(, WITH (ACUTE,CIRCUMFLEX,D(IAERESIS,OT (ABOVE,BELOW)),GRAVE,HOOK),YNN),X(",
  ", WITH D(IAERESIS,OT ABOVE)),Y(, WITH (ACUTE,CIRCUMFLEX,D(IAERESIS,OT (ABOVE,BELOW)),GRAVE,HOO",
  "K(, ABOVE),LOOP,MACRON,STROKE,TILDE),OGH),Z(, WITH (ACUTE,C(ARON,IRCUMFLEX),D(ESCENDER,OT (ABO",
  "VE,BELOW)),HOOK,LINE BELOW,PALATAL HOOK,S(TROKE,WASH TAIL)))),IGATURE (IJ,OE)),ROSS),EPIGRAPHI",
  "C LETTER (ARCHAIC M,I( LONGA,NVERTED M),REVERSED (F,P),SIDEWAYS I),LETTER (A(IN,LVEOLAR CLICK)",
  ",BI(DENTAL PERCUSSIVE,LABIAL (CLICK,PERCUSSIVE)),DENTAL CLICK,GLOTTAL STOP(, WITH STROKE),INVE",
  "RTED GLOTTAL STOP(, WITH (CURL,STROKE)),LATERAL CLICK,PHARYNGEAL VOICED FRICATIVE,RE(TROFLEX C",
  "LICK(, WITH RETROFLEX HOOK),VERSED (ESH LOOP,GLOTTAL STOP WITH STROKE)),S(INOLOGICAL DOT,MALL ",
  "CAPITAL (A(,E),B(,ARRED B),C,D,E(,TH,ZH),F,G(, WITH HOOK),H,I(,NVERTED R),J,K,L(, WITH (BELT,S",
  "TROKE)),M,N,O(,E,PEN O,U),P,Q,R(, WITH RIGHT LEG,EVERSED (N,R),UM),S,T(,URNED (E,G,K,M,R)),U,V",
  ",W,Y,Z),TRETCHED C(, WITH CURL)),TWO WITH STROKE,VOICED LARYNGEAL SPIRANT,WYNN,YR),S(MALL (CAP",
  "ITAL LETTER (I WITH STROKE,U WITH STROKE),L(ETTER (A(, (REVERSED-SCHWA,WITH (ACUTE,BREVE(, AND",
  " (ACUTE,DOT BELOW,GRAVE,HOOK ABOVE,TILDE)),C(ARON,IRCUMFLEX(, AND (ACUTE,DOT BELOW,GRAVE,HOOK ",
  "ABOVE,TILDE))),D(IAERESIS(, AND MACRON),O(T (ABOVE(, AND MACRON),BELOW),UBLE GRAVE)),GRAVE,HOO",
  "K ABOVE,INVERTED BREVE,MACRON,OGONEK,R(ETROFLEX HOOK,I(GHT HALF RING,NG (ABOVE(, AND ACUTE),BE",
  "LOW))),STROKE,TILDE)),A,E(, WITH (ACUTE,MACRON)),LPHA(, WITH RETROFLEX HOOK),NGLICANA W,O,U,V(",
  ", WITH HORIZONTAL BAR),Y),B(, WITH (DOT (ABOVE,BELOW),FLOURISH,HOOK,LINE BELOW,MIDDLE TILDE,PA",
  "LATAL HOOK,STROKE,TOPBAR),A(RRED (ALPHA,E,O),SELINE ESH),ETA,LACKLETTER (E,O(, WITH STROKE)),O",
  "TTOM HALF O,ROKEN L),C(, WITH (ACUTE,BAR,C(ARON,EDILLA(, AND ACUTE),IRCUMFLEX,URL),DOT ABOVE,H",
  "OOK,PALATAL HOOK,RETROFLEX HOOK,STROKE),HI(, WITH LOW (LEFT SERIF,RIGHT RING)),LOSED (INSULAR ",
  "G,O(MEGA,PEN E),REVERSED OPEN E),ON,UATRILLO(, WITH COMMA)),D(, WITH (C(ARON,EDILLA,IRCUMFLEX ",
  "BELOW,URL),DOT (ABOVE,BELOW),HOOK(, AND TAIL),LINE BELOW,MIDDLE TILDE,PALATAL HOOK,S(HORT STRO",
  "KE OVERLAY,TROKE),T(AIL,OPBAR)),B DIGRAPH,E(LTA,ZH DIGRAPH(, WITH (PALATAL HOOK,RETROFLEX HOOK",
  "))),O(TLESS (I,J(, WITH STROKE(, AND HOOK))),UBLE (R(, WITH CROSSED-TAIL),THORN,WYNN)),UM,Z(, ",
  "(DIGRAPH(, WITH (CURL,RETROFLEX HOOK)),WITH CARON))),E(, WITH (ACUTE,BREVE,C(ARON,EDILLA(, AND",
  " BREVE),IRCUMFLEX(, (AND (ACUTE,DOT BELOW,GRAVE,HOOK ABOVE,TILDE),BELOW))),D(IAERESIS,O(T (ABO",
  "VE,BELOW),UBLE GRAVE)),FLOURISH,GRAVE,HOOK ABOVE,INVERTED BREVE,MACRON(, AND (ACUTE,GRAVE)),NO",
  "TCH,OGONEK,RETROFLEX HOOK,STROKE,TILDE(, BELOW)),GYPTOLOGICAL A(IN,LEF),NG(, WITH (CROSSED-TAI",
  "L,PALATAL HOOK)),SH(, WITH (CURL,DOUBLE BAR(, AND CURL),PALATAL HOOK,RETROFLEX HOOK)),T(,H),ZH",
  "(, (REVERSED,WITH (C(ARON,URL),PALATAL HOOK,RETROFLEX HOOK,TAIL)))),F(, WITH (DOT ABOVE,HOOK,M",
  "IDDLE TILDE,PALATAL HOOK,STROKE),ENG DIGRAPH(, WITH TRILL)),G(, WITH (ACUTE,BREVE,C(ARON,EDILL",
  "A,IRCUMFLEX),DOT ABOVE,HOOK,MACRON,OBLIQUE STROKE,PALATAL HOOK,STROKE),AMMA,HA,LOTTAL (A,I,STO",
  "P,U)),H(, WITH (BREVE BELOW,C(ARON,EDILLA,IRCUMFLEX),D(ESCENDER,IAERESIS,OT (ABOVE,BELOW)),HOO",
  "K,LINE BELOW,PALATAL HOOK,STROKE),ALF H,ENG(, WITH HOOK),V),I(, WITH (ACUTE,BREVE,C(ARON,IRCUM",
  "FLEX),D(IAERESIS(, AND ACUTE),O(T BELOW,UBLE GRAVE)),GRAVE,HOOK ABOVE,INVERTED BREVE,MACRON,OG",
  "ONEK,RETROFLEX HOOK,STROKE(, AND RETROFLEX HOOK),TILDE(, BELOW)),N(SULAR (D,F,G,R,S,T),VERTED ",
  "(ALPHA,OE)),OT(A(, WITH STROKE),IFIED E),S),J(, WITH (C(ARON,IRCUMFLEX,ROSSED-TAIL),STROKE)),K",
  "(, WITH (ACUTE,C(ARON,EDILLA),D(ESCENDER,IAGONAL STROKE,OT BELOW),HOOK,LINE BELOW,OBLIQUE STRO",
  "KE,PALATAL HOOK,STROKE(, AND DIAGONAL STROKE)),RA),L(, WITH (ACUTE,B(AR,ELT(, AND PALATAL HOOK",
  ")),C(ARON,EDILLA,IRCUMFLEX BELOW,URL),DO(T BELOW(, AND MACRON),UBLE (BAR,MIDDLE TILDE)),FISHHO",
  "OK,HIGH STROKE,INVERTED LAZY S,LINE BELOW,MIDDLE (DOT,RING,TILDE),PALATAL HOOK,RETROFLEX HOOK(",
  ", AND BELT),STROKE),AMBDA WITH STROKE,E(NIS F,ZH(, WITH RETROFLEX HOOK)),J,ONG S(, WITH (D(IAG",
  "ONAL STROKE,OT ABOVE),HIGH STROKE)),S DIGRAPH,UM,Z DIGRAPH),M(, WITH (ACUTE,CROSSED-TAIL,DOT (",
  "ABOVE,BELOW),HOOK,MIDDLE TILDE,PALATAL HOOK),IDDLE( SCOTS S,-WELSH (LL,V)),UM),N(, (PRECEDED B",
  "Y APOSTROPHE,WITH (ACUTE,C(ARON,EDILLA,IRCUMFLEX BELOW,ROSSED-TAIL,URL),D(ESCENDER,OT (ABOVE,B",
  "ELOW)),GRAVE,L(EFT HOOK,INE BELOW,ONG RIGHT LEG),MIDDLE TILDE,OBLIQUE STROKE,PALATAL HOOK,RETR",
  "OFLEX HOOK,TILDE)),J,UM),O(, WITH (ACUTE,BREVE,C(ARON,IRCUMFLEX(, AND (ACUTE,DOT BELOW,GRAVE,H",
  "OOK ABOVE,TILDE))),D(IAERESIS(, AND MACRON),O(T (ABOVE(, AND MACRON),BELOW),UBLE (ACUTE,GRAVE)",
  ")),GRAVE,HO(OK ABOVE,RN(, AND (ACUTE,DOT BELOW,GRAVE,HOOK ABOVE,TILDE))),INVERTED BREVE,LO(NG ",
  "STROKE OVERLAY,OP,W RING INSIDE),MACRON(, AND (ACUTE,GRAVE)),OGONEK(, AND MACRON),RETROFLEX HO",
  "OK,STROKE(, AND ACUTE),TILDE(, AND (ACUTE,DIAERESIS,MACRON))),I,LD POLISH O,MEGA,O,PEN (E(, WI",
  "TH RETROFLEX HOOK),O(, WITH (RETROFLEX HOOK,STROKE),E)),U),P(, WITH (ACUTE,DOT ABOVE,FLOURISH,",
  "HOOK,MIDDLE TILDE,PALATAL HOOK,S(QUIRREL TAIL,TROKE(, THROUGH DESCENDER))),HI),Q(, WITH (DIAGO",
  "NAL STROKE,HOOK(, TAIL),STROKE THROUGH DESCENDER),P DIGRAPH),R(, (ROTUNDA,WITH( (ACUTE,C(ARON,",
  "EDILLA,ROSSED-TAIL),DO(T (ABOVE,BELOW(, AND MACRON)),UBLE GRAVE),FISHHOOK(, AND (MIDDLE TILDE,",
  "PALATAL HOOK)),INVERTED BREVE,L(INE BELOW,ONG LEG),MIDDLE TILDE,OBLIQUE STROKE,PALATAL HOOK,ST",
  "ROKE,TAIL),OUT HANDLE)),AMS HORN,EVERSED (C(, WITH DOT),E(,NG),HALF H,K,OPEN E(, WITH (HOOK,RE",
  "TROFLEX HOOK)),R WITH FISHHOOK,SCRIPT G),UM(, ROTUNDA)),S(, WITH (ACUTE(, AND DOT ABOVE),C(ARO",
  "N(, AND DOT ABOVE),EDILLA,IRCUMFLEX,OMMA BELOW,URL),DOT (ABOVE,BELOW(, AND DOT ABOVE)),HOOK,MI",
  "DDLE TILDE,OBLIQUE STROKE,PALATAL HOOK,S(HORT STROKE OVERLAY,WASH TAIL)),A(KHA YAT,LTILLO),C(H",
  "WA(, WITH (HOOK,RETROFLEX HOOK)),RIPT (G(, WITH CROSSED-TAIL),R(, WITH RING))),HARP S,I(DEWAYS",
  " (DIAERESIZED U,O(, WITH STROKE,PEN O),TURNED M,U),GMOID S),QUAT REVERSED ESH,TIRRUP R),T(, WI",
  "TH (C(ARON,EDILLA,IRCUMFLEX BELOW,OMMA BELOW,URL),D(IA(ERESIS,GONAL STROKE),OT (ABOVE,BELOW)),",
  "HOOK(, AND RETROFLEX HOOK),LINE BELOW,MIDDLE TILDE,PALATAL HOOK,RETROFLEX HOOK,STROKE),AILLESS",
  " PHI,C DIGRAPH WITH CURL,ESH DIGRAPH(, WITH (PALATAL HOOK,RETROFLEX HOOK)),H( WITH STRIKETHROU",
  "GH,ORN(, WITH STROKE(, THROUGH DESCENDER))),O(NE (FIVE,SIX,TWO),P HALF O),RESILLO,S DIGRAPH(, ",
  "WITH RETROFLEX HOOK),U(M,RNED (A(,E,LPHA),DELTA,E,G,H(, WITH FISHHOOK(, AND TAIL)),I(,NSULAR G",
  "),K,L,M(, WITH LONG LEG),O( OPEN-O(, WITH STROKE),E(, WITH (HORIZONTAL STROKE,STROKE)),PEN E),",
  "R(, WITH (HOOK,LONG LEG(, AND RETROFLEX HOOK),MIDDLE TILDE,PALATAL HOOK,TAIL)),T(, WITH CURL),",
  "UI,V,W,Y(, WITH BELT))),Z),U(, (BAR(, WITH SHORT RIGHT LEG),WITH (ACUTE,BREVE,C(ARON,IRCUMFLEX",
  "(, BELOW)),D(IAERESIS(, (AND (ACUTE,CARON,GRAVE,MACRON),BELOW)),O(T BELOW,UBLE (ACUTE,GRAVE)))",
  ",GRAVE,HO(OK ABOVE,RN(, AND (ACUTE,DOT BELOW,GRAVE,HOOK ABOVE,TILDE))),INVERTED BREVE,LEFT HOO",
  "K,MACRON(, AND DIAERESIS),OGONEK,R(ETROFLEX HOOK,ING ABOVE),S(HORT RIGHT LEG,TROKE),TILDE(, (A",
  "ND ACUTE,BELOW)))),E,I,M,O,PSILON(, WITH STROKE)),V(, WITH (CURL,D(IAGONAL STROKE,OT BELOW),HO",
  "OK,PALATAL HOOK,RIGHT HOOK,TILDE),END,ISIGOTHIC Z,OLAPUK (AE,OE,UE),Y),W(, WITH (ACUTE,CIRCUMF",
  "LEX,D(IAERESIS,OT (ABOVE,BELOW)),GRAVE,HOOK,RING ABOVE)),X(, WITH (D(IAERESIS,OT ABOVE),LO(NG ",
  "LEFT LEG(, (AND LOW RIGHT RING,WITH SERIF)),W RIGHT RING),PALATAL HOOK)),Y(, WITH (ACUTE,CIRCU",
  "MFLEX,D(IAERESIS,OT (ABOVE,BELOW)),GRAVE,HOOK(, ABOVE),LOOP,MACRON,RING ABOVE,S(HORT RIGHT LEG",
  ",TROKE),TILDE),OGH),Z(, WITH (ACUTE,C(ARON,IRCUMFLEX,URL),D(ESCENDER,OT (ABOVE,BELOW)),HOOK,LI",
  "NE BELOW,MIDDLE TILDE,PALATAL HOOK,RETROFLEX HOOK,S(TROKE,WASH TAIL)))),IGATURE (F(F(,I,L),I,L",
  "),IJ,LONG S T,OE,ST))),UBSCRIPT SMALL LETTER (A,E,H,I,J,K,L,M,N,O,P,R,S(,CHWA),T,U,V,X)))),E(A",
  "F( FLUTTERING IN WIND,Y GREEN),DGER,FT( (A(N(D (LOWER (AND RIGHT TRIANGULAR THREE QUARTERS BLO",
  "CK,ONE EIGHTH BLOCK),RIGHT (DOUBLE TURNSTILE,T(ACK,RIANGULAR HALF BLOCK)),UPPER (AND RIGHT TRI",
  "ANGULAR THREE QUARTERS BLOCK,ONE EIGHTH BLOCK)),G(ER BUBBLE,LE BRACKET(, WITH DOT))),R(C LESS-",
  "THAN BRACKET,ROW WITH (CIRCLED PLUS,SMALL CIRCLE))),B(ARB (DOWN RIGHT BARB (DOWN HARPOON,UP HA",
  "RPOON),UP RIGHT BARB (DOWN HARPOON,UP HARPOON)),LACK (LENTICULAR BRACKET,TORTOISE SHELL BRACKE",
  "T)),C(EILING,LOSED ENTRY,ORNER BRACKET,URLY BRACKET(, (LOWER HOOK,MIDDLE PIECE,UPPER HOOK))),D",
  "O(TTED SUBSTITUTION BRACKET,UBLE (ANGLE BRACKET,PARENTHESIS,QUOTATION MARK,WIGGLY FENCE)),F(I(",
  "SH TAIL,VE EIGHTHS BLOCK),LOOR),HA(LF (BL(ACK (CIRCLE,STAR),OCK),CIRCLE(, WITH (DOT,FOUR DOTS,",
  "T(HREE DOTS,WO DOTS))),FOLDER,INVERSE MEDIUM SHADE AND RIGHT HALF BLOCK,MEDIUM SHADE,RUNNING M",
  "AN),ND TELEPHONE RECEIVER),L(OW PARAPHRASE BRACKET,UGGAGE),MULTIMAP,NORMAL FACTOR SEMIDIRECT P",
  "RODUCT,O(NE (EIGHTH BLOCK,QUARTER BLOCK),UTER JOIN),PARENTHESIS(, (EXTENSION,LOWER HOOK,UPPER ",
  "HOOK)),R(AISED OMISSION BRACKET,IGHT (ARROW(, (THROUGH SMALL CIRCLE,WITH (DOUBLE VERTICAL STRO",
  "KE,STROKE,VERTICAL STROKE))),BLACK ARROW,DOUBLE ARROW(, WITH (STROKE,VERTICAL STROKE)),OPEN-HE",
  "ADED ARROW,SANS-SERIF ARROW,TRIANGLE-HEADED ARROW,W(AVE ARROW,HITE ARROW))),S(-SHAPED BAG DELI",
  "MITER,E(MIDIRECT PRODUCT,VEN EIGHTHS BLOCK),I(DEWAYS U BRACKET,NGLE QUOTATION MARK),PEECH BUBB",
  "LE,QUARE BRACKET(, (EXTENSION,LOWER CORNER,UPPER CORNER,WITH (DOUBLE STROKE,QUILL,STROKE,TICK ",
  "IN (BOTTOM CORNER,TOP CORNER),UNDERBAR))),UBSTITUTION BRACKET),T(ACK,H(IRD WHITE RIGHT POINTIN",
  "G INDEX,OUGHT BUBBLE,REE (EIGHTHS BLOCK,QUARTERS BLOCK)),ORTOISE SHELL BRACKET,R(ANSPOSITION B",
  "RACKET,IANG(LE BESIDE VERTICAL BAR,ULAR ONE QUARTER BLOCK))),VERTICAL B(AR WITH QUILL,OX LINE)",
  ",W(HITE (C(ORNER BRACKET,URLY BRACKET),LENTICULAR BRACKET,PARENTHESIS,SQUARE BRACKET,TORTOISE ",
  "SHELL BRACKET),IGGLY FENCE,RITING HAND)),-(FACING (ARMENIAN ETERNITY SIGN,FIST,SVASTI SIGN(, W",
  "ITH DOTS)),HANDED INTERLACED PENTAGRAM,POINTING (ANGLE BRACKET,CURVED ANGLE BRACKET,DOUBLE ANG",
  "LE QUOTATION MARK,MAGNIFYING GLASS),S(HADED WHITE RIGHTWARDS ARROW,IDE ARC ANTICLOCKWISE ARROW",
  "),TO-RIGHT (EMBEDDING,ISOLATE,MARK,OVERRIDE)),WARDS (ARROW(, (A(BOVE (ALMOST EQUAL TO,REVERSE ",
  "(ALMOST EQUAL TO,TILDE OPERATOR),SHORT RIGHTWARDS ARROW,TILDE OPERATOR),ND UPPER AND LOWER ONE",
  " EIGHTH BLOCK),FROM BAR(, TO BLACK DIAMOND),OVER RIGHTWARDS ARROW,T(HROUGH (LESS-THAN,SUBSET,X",
  "),O B(AR(, OVER RIGHTWARDS ARROW TO BAR),LACK DIAMOND)),WITH (DO(TTED STEM,UBLE VERTICAL STROK",
  "E),EQUILATERAL ARROWHEAD,HOOK,L(ARGE TRIANGLE ARROWHEAD,OOP),MEDIUM TRIANGLE ARROWHEAD,NOTCHED",
  " TAIL,PLUS BELOW,S(MALL (EQUILATERAL ARROWHEAD,TRIANGLE ARROWHEAD),TROKE),T(AIL(, WITH (DOUBLE",
  " VERTICAL STROKE,VERTICAL STROKE)),IP (DOWNWARDS,UPWARDS)),VERTICAL STROKE)),-TAIL),B(ACK-TILT",
  "ED SHADOWED WHITE ARROW,LACK (ARROW,CIRCLED WHITE ARROW),OTTOM-SHADED WHITE ARROW),COMPRESSED ",
  "ARROW,D(ASHED ARROW,OUBLE (ARROW(, (FROM BAR,WITH (STROKE,VERTICAL STROKE)),-TAIL),DASH ARROW)",
  "),F(INGER-POST ARROW,RONT-TILTED SHADOWED WHITE ARROW),H(A(ND,RPOON (OVER RIGHTWARDS HARPOON,W",
  "ITH BARB (DOWN( (ABOVE RIGHTWARDS HARPOON WITH BARB DOWN,BELOW LONG DASH,FROM BAR,TO BAR),WARD",
  "S),UP( (ABOVE (L(EFTWARDS HARPOON WITH BARB DOWN,ONG DASH),RIGHTWARDS HARPOON WITH BARB UP),FR",
  "OM BAR,TO BAR),WARDS)))),EAVY (ARROW,COMPRESSED ARROW)),LEFT-SHADED WHITE ARROW,OPEN-HEADED AR",
  "ROW,PAIRED ARROWS,QUADRUPLE ARROW,R(IGHT-SHADED WHITE ARROW,OCKET),S(ANS-SERIF ARROW,QU(ARED A",
  "RROW,IGGLE ARROW)),T(OP SHADED WHITE ARROW,RI(ANGLE( ARROWHEAD,-HEADED (ARROW(, (OVER RIGHTWAR",
  "DS TRIANGLE-HEADED ARROW,TO BAR,WITH (BOLD SHAFT,DOUBLE (HORIZONTAL STROKE,VERTICAL STROKE),HE",
  "AVY SHAFT,LONG TIP (DOWNWARDS,UPWARDS),MEDIUM SHAFT,NARROW SHAFT,VERY HEAVY SHAFT))),DASHED AR",
  "ROW,PAIRED ARROWS)),PLE (ARROW,DASH ARROW)),WO( HEADED ARROW,-HEADED (ARROW (FROM BAR,WITH (DO",
  "UBLE VERTICAL STROKE,T(AIL(, WITH (DOUBLE VERTICAL STROKE,VERTICAL STROKE)),RIANGLE ARROWHEADS",
  "),VERTICAL STROKE)),TRIPLE DASH ARROW))),W(AVE ARROW,HITE ARROW(, WITHIN TRIANGLE ARROWHEAD)))",
  "),G,MON,O(,PARD),PCHA (CONSONANT SIGN (K(,ANG),L,M,N(,YIN-DO),P,R,T),DIGIT (EIGHT,F(IVE,OUR),N",
  "INE,ONE,S(EVEN,IX),T(HREE,WO),ZERO),LETTER (A,B(A,LA),C(A,HA),D(A,DA,ZA),F(A,LA),G(A,LA),H(A,L",
  "A),JA,K(A,HA,LA),LA,M(A,LA),N(A,GA,YA),P(A,HA,LA),RA,S(A,HA),T(A,HA,S(A,HA),T(A,HA)),VA,WA,YA)",
  ",PUNCTUATION (CER-WA,NYET THYOOM TA-ROL,T(A-ROL,SHOOK(, CER-WA))),S(IGN (NUKTA,RAN),UBJOINED L",
  "ETTER (RA,YA)),VOWEL SIGN (AA,E,I,O(,O),U(,U))),SS-THAN (A(BOVE (DOUBLE-LINE EQUAL ABOVE GREAT",
  "ER-THAN,GREATER-THAN ABOVE DOUBLE-LINE EQUAL,LEFTWARDS ARROW,S(IMILAR (ABOVE GREATER-THAN,OR E",
  "QUAL),LANTED EQUAL ABOVE GREATER-THAN ABOVE SLANTED EQUAL)),ND (NOT APPROXIMATE,SINGLE-LINE NO",
  "T EQUAL TO)),BUT NOT EQU(AL TO,IVALENT TO),CLOSED BY CURVE(, ABOVE SLANTED EQUAL),EQUAL TO OR ",
  "GREATER-THAN,O(R (APPROXIMATE,EQU(AL TO,IVALENT TO),GREATER-THAN,SLANTED EQUAL TO(, WITH DOT (",
  "ABOVE(, RIGHT),INSIDE))),VER EQUAL TO),SIGN,WITH (CIRCLE INSIDE,DOT,QUESTION MARK ABOVE)),VEL ",
  "SLIDER),F,I(BRA,G(ATURE OPEN ET ORNAMENT,HT( (CHECK MARK,EIGHT SPOKED ASTERISK,F(IVE (POINTED ",
  "BLACK STAR,SPOKED ASTERISK),OUR POINTED BLACK (CUSP,STAR)),GREEK CROSS,LEFT TORTOISE SHELL BRA",
  "CKET ORNAMENT,R(AIL,IGHT TORTOISE SHELL BRACKET ORNAMENT),S(ALTIRE,HADE,IX SPOKED ASTERISK),T(",
  "HREE POINTED BLACK STAR,WELVE POINTED BLACK STAR),VERTICAL BAR,WHITE SQUARE),NING(, MOOD(, BUB",
  "BLE)))),M(BU (DIGIT (EIGHT,F(IVE,OUR),NINE,ONE,S(EVEN,IX),T(HREE,WO),ZERO),EXCLAMATION MARK,LE",
  "TTER (B(A,HA),C(A,HA),D(A,HA),G(A,HA,YAN),HA,J(A,HA),K(A,HA),LA,MA,N(A,GA),P(A,HA),RA,S(A,HA,S",
  "A),T(A,HA,RA),WA,YA(,N)),QUESTION MARK,S(IGN (KEMPHRENG,LOO,MUKPHRENG,SA-I),MALL LETTER (ANUSV",
  "ARA,KA,LA,MA,N(A,GA),PA,RA,TA),UBJOINED LETTER (RA,WA,YA)),VOWEL( SIGN (A(,I,U),E(,E),I,O(,O),",
  "U),-CARRIER LETTER)),ITED LIABILITY SIGN),N(E( (FEED,INTEGRATION (NOT INCLUDING THE POLE,WITH ",
  "(RECTANGULAR PATH AROUND POLE,SEMICIRCULAR PATH AROUND POLE)),SEPARATOR,TABULATION(, SET)),AR ",
  "(A SIGN A(028B,1(00-102,20B,31C),3(0(1,2,3,4,5,6,7,8,9(A,B,C)),1(0,1,2,3(A,B,C),4,5,6,7,8,9),2",
  "(0,1,2,3,4,5,6,7,8,9),3(0,1,2,3,4,5,6,7,8,9),4(0,1,2,3,4,5,6,7,8,9),5(0,1,2,3,4,5,6,7,8,9),6(0",
  ",1,2,3,4,5,6,7,8,9),7(0,1)),4(0(0-VAS,1-VAS,2-VAS,3-VAS,4-VAS,5-VAS,6-VAS,7-VAS,8-VAS,9-VAS),1",
  "(0-VAS,1-VAS,2-VAS,3-VAS,4-VAS,5-VAS,6-VAS,7-VAS,8-VAS)),5(0(1,2,3,4,5,6,8,9),1(0,1,2,3,5,6),2",
  "(0,1,3,4,5,6,7,8,9),3(0,1,2,4,5,6,7,8,9),4(0,1,2,5,7,8,9),5(0,1,2,3,4,5,6,7,9),6(3,4,5,6,8,9),",
  "7(0,1,2,3,4,5,6,7,8,9),8(0,1,2,3,4,5,6,7,8,9),9(1,2,4,5,6,8)),6(0(0,1,2,3,4,6,8,9),1(0,1,2,3,4",
  ",5,6,7,8,9),2(0,1,2,3,4,6,7,8,9),3(4,7,8),4(0,2,3,4,5,6,8,9),5(1,2,3,4,5,6,7,8,9),6(0,1,2,3,4)",
  "),7(0(1 A,2 B,3 D,4 E,5 F,6 H,7 J,8 K,9( L,-(2 L2,3 L3,4 L4,6 L6))),1(0 W,1 X,2 Y,3 OMEGA,4 AB",
  "B,5 BB,7 DD),26 EYYY,32 JE),80(0,1,2,3,4,5,6,7),B(0(0(1,2,3,4,5,6,7,8,9),1(0,1,3,6,7),2(0,1(,F",
  ",M),2(,F,M),3(,M),4,6,7,8,9),3(0,1,4,7,8,9),4(0,1,4,5,6,7,8,9),5(0,1,3,4,5,6,7,8,9),6(0,1,5,6,",
  "7,9),7(0,3,4,6,7,8,9),8(0,1,2,5,6,7)),1(18,2(0,2,3),31(A,B),64,71,8(0,8),91))),B (IDEOGRAM (B(",
  "1(0(0 MAN,2 WOMAN,4 DEER,5( EQUID,F MARE,M STALLION),6(F EWE,M RAM),7(F SHE-GOAT,M HE-GOAT),8(",
  "F SOW,M BOAR),9(F COW,M BULL)),2(0 WHEAT,1 BARLEY,2 OLIVE,3 SPICE,5 CYPERUS),3(0 OIL,1 WINE,2)",
  ",4(0 BRONZE,1 GOLD,2,5 WOOL,6),5(0,1 HORN,2,3,4,7,8,9 CLOTH),6(0,1,2 GARMENT,3 ARMOUR,4,5,6,7,",
  "8,9),7(0,1,2,3 MONTH,4,6 TREE,7,8,9),8(0,1,2,3,4,5,9),9(0,1 HELMET)),2(2(0 FOOTSTOOL,5 BATHTUB",
  "),3(0 SPEAR,1 ARROW,2,3 SWORD,4,6),4(0 WHEELED CHARIOT,1 CHARIOT,2 CHARIOT FRAME,3 WHEEL,5,6,8",
  ",9),5(1,2,3,4 DART,5,6,7,8,9))),VESSEL B(155,2(0(0,1,2,3,4,5,6,7,8,9),1(0,1,2,3,4,5,6,7,8,9),2",
  "(1,2,6,7,8,9),50),305)),MONOGRAM B(1(2(7 KAPO,8 KANAKO),3(3 AREPA,5 MERI),56 TURO2),247 DIPTE)",
  ",SY(LLABLE B0(0(1 DA,2 RO,3 PA,4 TE,5 TO,6 NA,7 DI,8 A,9 SE),1(0 U,1 PO,2 SO,3 ME,4 DO,5 MO,6 ",
  "QA,7 ZA),2(0 ZO,1 QI,3 MU,4 NE,5 A2,6 RU,7 RE,8 I,9 PU2),3(0 NI,1 SA,2 QO,3 RA3,6 JO,7 TI,8 E,",
  "9 PI),4(0 WI,1 SI,2 WO,3 A3,4 KE,5 DE,6 JE,8 NWA),5(0 PU,1 DU,2 NO,3 RI,4 WA,5 NU,7 JA,8 SU,9 ",
  "TA),6(0 RA,1 O,2 PTE,5 JU,6 TA2,7 KI,8 RO2,9 TU),7(0 KO,1 DWE,2 PE,3 MI,4 ZE,5 WE,6 RA2,7 KA,8",
  " QE),8(0 MA,1 KU,5 AU,7 TWE),9(0 DWO,1 TWO)),MBOL B0(1(8,9),22,34,4(7,9),56,6(3,4),79,8(2,3,6,",
  "9)))))),K( SYMBOL,ED PAPERCLIPS)),ON FACE,PS(,TICK),RA SIGN,SU (LETTER (A(,E),BA,C(A,HA),D(A,Z",
  "A),E(,U),FA,G(A,HA),H(A,HA),I,JA,K(A,HA),LA,MA,N(A,GA),O(,E),P(A,HA),S(A,HA),T(A,HA,ONE (MYA (",
  "BO,CYA,JEU,NA,TI),NA PO),S(A,HA)),U(,E,H),WA,XA,Y(A,HA),Z(A,HA)),PUNCTUATION (COMMA,FULL STOP)",
  "),VRE TOURNOIS SIGN,ZARD),LAMA,O(BSTER,CK(, WITH INK PEN,ING-SHIFT (ONE,ZERO)),GICAL (AND(, WI",
  "TH (DO(T ABOVE,UBLE (OVERBAR,UNDERBAR)),HORIZONTAL DASH,MIDDLE STEM,UNDERBAR)),OR(, (OVERLAPPI",
  "NG LOGICAL AND,WITH (DO(T ABOVE,UBLE (OVERBAR,UNDERBAR)),HORIZONTAL DASH,MIDDLE STEM)))),LLIPO",
  "P,NG (D(ASH FROM LEFT MEMBER OF DOUBLE VERTICAL,IVISION,RUM),LEFT( (RIGHT (ARROW,DOUBLE ARROW)",
  ",TACK),WARDS (ARROW(, FROM BAR),DOUBLE ARROW(, FROM BAR),SQUIGGLE ARROW)),RIGHT( TACK,WARDS (A",
  "RROW(, FROM BAR),DOUBLE ARROW(, FROM BAR),SQUIGGLE ARROW))),T(ION BOTTLE,US),UDLY CRYING FACE,",
  "VE (HOTEL,LETTER),W( (ASTERISK,B(ATTERY,RIGHTNESS SYMBOL),DOUBLE PRIME QUOTATION MARK,KAVYKA(,",
  " WITH DOT),LINE),ER (BLADE SCISSORS,FIVE EIGHTHS BLOCK,HALF (BLOCK,CIRCLE,INVERSE WHITE CIRCLE",
  ",MEDIUM SHADE),LEFT (B(ALLPOINT PEN,LOCK DIAGONAL (LOWER MIDDLE LEFT TO LOWER (CENTRE,RIGHT),U",
  "PPER (CENTRE TO (LOWER (MIDDLE RIGHT,RIGHT),UPPER MIDDLE RIGHT),LEFT TO (LOWER (CENTRE,MIDDLE ",
  "RIGHT),UPPER MIDDLE RIGHT),MIDDLE LEFT TO LOWER (CENTRE,MIDDLE RIGHT,RIGHT)))),CRAYON,FOUNTAIN",
  " PEN,P(AINTBRUSH,ENCIL),QUADRANT CIRCULAR ARC,SEMICIRCULAR ANTICLOCKWISE ARROW,TRIANG(LE,ULAR ",
  "MEDIUM SHADE)),ONE (EIGHTH BLOCK,QUARTER BLOCK),RIGHT (BLOCK DIAGONAL (LOWER (CENTRE TO (LOWER",
  " MIDDLE RIGHT,UPPER (MIDDLE RIGHT,RIGHT)),LEFT TO (LOWER MIDDLE RIGHT,UPPER (CENTRE,MIDDLE RIG",
  "HT)),MIDDLE LEFT TO UPPER (CENTRE,MIDDLE RIGHT,RIGHT)),UPPER MIDDLE LEFT TO UPPER (CENTRE,RIGH",
  "T)),CORNER WITH DOT,DROP-SHADOWED WHITE SQUARE,PENCIL,QUADRANT CIRCULAR ARC,S(EMICIRCULAR CLOC",
  "KWISE ARROW,HADOWED WHITE (CIRCLE,SQUARE)),TRIANG(LE,ULAR MEDIUM SHADE)),SEVEN EIGHTHS BLOCK,T",
  "(HREE (EIGHTHS BLOCK,QUARTERS BLOCK),RIANGULAR ONE QUARTER BLOCK))),ZENGE(, DIVIDED BY HORIZON",
  "TAL RULE)),R(E,I,M,O),U(GGAGE,NGS),Y(CIAN LETTER (A(,N),B(,H),D,E(,N),G,H,I,J,K(,K),L,M(,M),N(",
  ",N),P,Q,R,S,T(,H,T),U,W,X,Z),DIAN (LETTER (A(,N),B,C,D,E(,N),F,G,I,K,L(,Y),M,N(,N),O,Q,R,S(,S)",
  ",T(,T),U,V,Y),TRIANGULAR MARK),ING FACE))"]

end MetricAudit.Text.CharacterNames
