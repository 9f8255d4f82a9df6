/-
MetricAudit.Text.CharacterNames.SToZ — names of characters, S to Z.

The names of characters that start with a letter from S to Z, written by their
beginnings as `Text.isListed` reads them: what stands in brackets, with
commas between, continues what stands before. The lines of a letter make
one text.
-/

namespace MetricAudit.Text.CharacterNames

/-- The names that start with S. -/
def startingWithS : List String := [
  "S( IN TRIANGLE,A(FETY (PIN,VEST),GITTARIUS,ILBOAT,KE BOTTLE AND CUP,L(T( SHAKER,IRE),UTING FAC",
  "E),MARITAN (ABBREVIATION MARK,LETTER (ALAF,B(AA,IT),DALAT,FI,GAMAN,I(N,T,Y),KAAF,LABAT,MIM,NUN",
  ",QUF,RISH,S(HAN,INGAAT),T(AAF,IT,SAADIY),YUT,ZEN),M(ARK (DAGESH,EPENTHETIC YUT,IN(,-ALAF),NEQU",
  "DAA,OCCLUSION),ODIFIER LETTER (EPENTHETIC YUT,I,SHORT A)),PUNCTUATION (A(FSAAQ,N(GED,NAAU),RKA",
  "ANU,TMAAU),BAU,MELODIC QITSA,NEQUDAA,QITSA,S(HIYYAALAA,OF MASHFAAT),TURU,Z(AEF,IQAA)),VOWEL SI",
  "GN (A(,A),E,I,LONG (A(,A),E,I,U),O(,VERLONG A(,A)),S(HORT A,UKUN),U)),N(DWICH,S-SERIF (HEAVY (",
  "DOUBLE (COMMA QUOTATION MARK ORNAMENT,TURNED COMMA QUOTATION MARK ORNAMENT),LOW DOUBLE COMMA Q",
  "UOTATION MARK ORNAMENT),INTERROBANG ORNAMENT)),RI,T(ELLITE(, ANTENNA),URN),UR(ASHTRA (CONSONAN",
  "T SIGN HAARU,D(ANDA,IGIT (EIGHT,F(IVE,OUR),NINE,ONE,S(EVEN,IX),T(HREE,WO),ZERO),OUBLE DANDA),L",
  "ETTER (A(,A,I,U),B(A,HA),C(A,HA),D(A,D(A,HA),HA),E(,E),G(A,HA),HA,I(,I),J(A,HA),K(A,HA),L(A,LA",
  "),MA,N(A,GA,NA,YA),O(,O),P(A,HA),RA,S(A,HA,SA),T(A,HA,T(A,HA)),U(,U),V(A,OCALIC (L(,L),R(,R)))",
  ",YA),SIGN (ANUSVARA,CANDRABINDU,VI(RAMA,SARGA)),VOWEL SIGN (A(A,I,U),E(,E),I(,I),O(,O),U(,U),V",
  "OCALIC (L(,L),R(,R)))),OPOD),XOPHONE),C(A(LES,RF),HOOL(, SATCHEL),I,O(OTER,RPI(ON,US)),R(E(EN,",
  "WDRIVER),IPT (CAPITAL (B,E,F,H,I,L,M,P,R),LIGATURE ET ORNAMENT,SMALL (E,G,L,O)),OLL,UPLE)),E(A",
  "(L,T),C(OND PLACE MEDAL,T(ION SIGN,OR)),DNA,E(-NO-EVIL MONKEY,DLING),GMENT(,ED DIGIT (EIGHT,F(",
  "IVE,OUR),NINE,ONE,S(EVEN,IX),T(HREE,WO),ZERO)),LFIE,MI(COLON,DIRECT PRODUCT WITH BOTTOM CLOSED",
  ",SEXTILE),PARATED SYMBOL,R(IOUS FACE WITH SYMBOLS COVERING MOUTH,VICE MARK),S(AME DOT,QUIQUADR",
  "ATE),T (MINUS,TRANSMIT STATE),WING NEEDLE,XTILE),GC,H(A(DOWED WHITE (CIRCLE,LATIN CROSS,STAR),",
  "LLOW PAN OF FOOD,MROCK,R(ADA (ABBREVIATION SIGN,CONTINUATION SIGN,D(ANDA,IGIT (EIGHT,F(IVE,OUR",
  "),NINE,ONE,S(EVEN,IX),T(HREE,WO),ZERO),OUBLE DANDA),E(KAM,XTRA SHORT VOWEL MARK),HEADSTROKE,LE",
  "TTER (A(,A,I,U),B(A,HA),C(A,HA),D(A,D(A,HA),HA),E,G(A,HA),HA,I(,I),J(A,HA),K(A,HA),L(A,LA),MA,",
  "N(A,GA,NA,YA),O,P(A,HA),RA,S(A,HA,SA),T(A,HA,T(A,HA)),U(,U),V(A,OCALIC (L(,L),R(,R))),YA),OM,S",
  "(ANDHI MARK,E(CTION MARK-(1,2),PARATOR),IGN (A(NUSVARA,VAGRAHA),CANDRABINDU,INVERTED CANDRABIN",
  "DU,JIHVAMULIYA,NUKTA,SIDDHAM,UPADHMANIYA,VI(RAMA,SARGA)),UTRA MARK),VOWEL (MODIFIER MARK,SIGN ",
  "(A(A,I,U),E,I(,I),O,PRISHTHAMATRA E,U(,U),VOCALIC (L(,L),R(,R))))),K),V(ED ICE,IAN LETTER (A(D",
  "O,GE,H,IR,R(E,RAY),SH,WE),BIB,CHURCH,DEAD,E(A(R,T),GG,RR),FEE,GAG,H(A-HA,UNG),I(AN,CE,F),JUDGE",
  ",KICK,LOLL,M(EASURE,IME),NUN,O(AK,IL,N,OZE,R,UT),PEEP,ROAR,S(O,URE),T(H(EY,IGH),OT),UP,VOW,WO(",
  "E,OL),YE(A,W),ZOO))),EEP,I(ELD,FT (IN,OUT),NTO SHRINE,P),O(CKED FACE WITH EXPLODING HEAD,OTING",
  " STAR,PPING (BAGS,TROLLEY),RT( (B(ACKSLANTED SOUTH ARROW,ENT ARROW POINTING DOWNWARDS THEN NOR",
  "TH EAST),DOWN TACK(, WITH OVERBAR),LEFT TACK,RIGHTWARDS ARROW ABOVE LEFTWARDS ARROW,SLANTED NO",
  "RTH ARROW,UP TACK(, (ABOVE SHORT DOWN TACK,WITH UNDERBAR))),CAKE,HAND FORMAT (CONTINUING OVERL",
  "AP,DOWN STEP,LETTER OVERLAP,UP STEP),S),ULDERED OPEN BOX,WER),R(IMP,UG),UFFLE PRODUCT,Y),I(,D(",
  "DHAM (D(ANDA,OUBLE DANDA),END OF TEXT MARK,LETTER (A(,A,I,LTERNATE U,U),B(A,HA),C(A,HA),D(A,D(",
  "A,HA),HA),E,G(A,HA),HA,I(,I),J(A,HA),K(A,HA),LA,MA,N(A,GA,NA,YA),O,P(A,HA),RA,S(A,HA,SA),T(A,H",
  "(A,REE-CIRCLE ALTERNATE I),T(A,HA),WO-CIRCLE ALTERNATE I(,I)),U(,U),V(A,OCALIC (L(,L),R(,R))),",
  "YA),REPETITION MARK-(1,2,3),S(E(CTION MARK (DOUBLE RING(, WITH RAYS),WITH (CIRCLES AND (FOUR E",
  "NCLOSURES,RAYS,TWO ENCLOSURES),DOUBLE CRESCENTS,QUADRUPLE CRESCENTS,RAYS AND DOTTED (CRESCENTS",
  ",DOUBLE CRESCENTS,TRIPLE CRESCENTS),SEPTUPLE CRESCENTS,TRI(DENT AND (DOTTED CRESCENTS,U-SHAPED",
  " ORNAMENTS),PLE CRESCENTS))),PARATOR (BAR,DOT)),IGN (ANUSVARA,CANDRABINDU,NUKTA,SIDDHAM,VI(RAM",
  "A,SARGA))),VOWEL SIGN (A(A,I,LTERNATE U(,U),U),E,I(,I),O,U(,U),VOCALIC R(,R))),EWAYS (BLACK (D",
  "OWN POINTING INDEX,LEFT POINTING INDEX,RIGHT POINTING INDEX,UP POINTING INDEX),WHITE (DOWN POI",
  "NTING INDEX,LEFT POINTING INDEX,RIGHT POINTING INDEX,UP POINTING INDEX))),GN( OF THE HORNS,WRI",
  "TING (AIR (BLOW( SMALL ROTATIONS,ING OUT),SUCK( SMALL ROTATIONS,ING IN)),BR(EATH (EXHALE,INHAL",
  "E),USH (BETWEEN,MULTIPLE,SINGLE)),C(HEEKS (NEUTRAL,PUFFED,SUCKED),O(LON,MMA)),D(REAMY EYEBROWS",
  " (DOWN NEUTRAL,NEUTRAL (DOWN,UP),UP NEUTRAL),YNAMIC (ARROWHEAD (LARGE,SMALL),EVERY OTHER TIME,",
  "FAST,GRADUAL,RELAXED,S(IMULTANEOUS(, ALTERNATING),LOW),TENSE)),E(ARS,XCITEMENT,YE( (BLINK (MUL",
  "TIPLE,SINGLE),WINK),BROWS STRAIGHT (DOWN,NEUTRAL,UP),GAZE-(FLOORPLANE (CURVED,STRAIGHT(, (ALTE",
  "RNATING,DOUBLE))),WALLPLANE (C(IRCLING,URVED),STRAIGHT(, (ALTERNATING,DOUBLE)))),LASHES (DOWN,",
  "FLUTTERING,UP),S (CLOSED,HALF (CLOSED,OPEN),OPEN,SQUEEZED,WIDE( OPEN,NING MOVEMENT)))),F(ACE D",
  "IRECTION POSITION NOSE (FORWARD TILTING,UP OR DOWN(, TILTING)),I(LL MODIFIER-(2,3,4,5,6),NGER)",
  ",L(ICK (LARGE (MULTIPLE,SINGLE),S(EQUENTIAL,MALL (MULTIPLE,SINGLE))),OORPLANE SHOULDER HIP MOV",
  "E),OREHEAD (CONTACT,NEUTRAL,WRINKLED),ULL STOP),GRASP (BETWEEN,MULTIPLE,SINGLE),H(A(IR,ND-(ANG",
  "LE(, (INDEX(, (MIDDLE (LITTLE,RING),RING LITTLE(, OUT),THUMB(, (IN,OUT)))),LITTLE (INDEX(, THU",
  "MB INDEX THUMB(, OUT)),UP),MIDDLE RING LITTLE(, (IN,OUT)),RING (DOWN MIDDLE THUMB INDEX CROSS,",
  "LITTLE))),C(IRCLE(, (INDEX(, (BENT,HINGE,MIDDLE(, (CROSS( LITTLE,ED),LITTLE,RING,THUMB)),RING ",
  "LITTLE)),LITTLE (INDEX,UP),MIDDLE (RING LITTLE(, BENT),UP),RING LITTLE)),LAW(, (FOUR FINGERS C",
  "ONJOINED,INDEX THUMB CURVE THUMB INSIDE,MIDDLE RING LITTLE CONJOINED(, SIDE),NO THUMB,THUMB (F",
  "ORWARD,SIDE))),U(P(, (FIVE FINGERS SPREAD(, OPEN),INDEX(, (RING LITTLE,THUMB(, OPEN))),MIDDLE ",
  "RING LITTLE,NO THUMB,OPEN(, (NO THUMB,THUMB (FORWARD,SIDE))),THUMB (FORWARD,SIDE))),RLICUE(, (",
  "INDEX RING LITTLE ON,MIDDLE RING LITTLE ON,OPEN)))),F(IST(, (FOUR FINGERS CONJOINED BENT,HEEL,",
  "INDEX(, (BENT(, OVER MIDDLE),CUPPED,HINGED(, (LOW,MIDDLE UP(, THUMB SIDE))),MIDDLE(, (BENT(, T",
  "HUMB STRAIGHT),C(ONJOINED(, (CUPPED(, THUMB FORWARD),HINGED(, THUMB SIDE),INDEX BENT,MIDDLE BE",
  "NT,THUMB (FORWARD,SIDE(, (BENT,CONJOINED))))),ROSS( LITTLE,ED(, THUMB SIDE))),HINGED(, SPREAD ",
  "THUMB SIDE),LITTLE,R(AISED KNUCKLES,ING(, (BENT,CONJOINED))),STRAIGHT THUMB BENT,THUMB(, (ANGL",
  "ED(, OUT),BENT,C(IRCLED,ONJOINED HINGED,UPPED),H(INGED,OOKED))),UP SPREAD THUMB FORWARD)),R(AI",
  "SED KNUCKLE,ING LITTLE),THUMB (ANGLED (IN MIDDLE UP,OUT MIDDLE UP),C(IRCLE(,D MIDDLE UP),U(PPE",
  "D MIDDLE UP,R(LICUE,VE THUMB (INSIDE,UNDER)))),FORWARD INDEX (BENT,STRAIGHT),HOOK(,ED MIDDLE (",
  "HINGED,UP)),SIDE(, (BOTH BENT,INDEX (BENT,HINGE),THUMB (BENT,CONJOINED,DIAGONAL)))),UP MIDDLE ",
  "HINGED(, THUMB (CONJOINED,SIDE)))),LITTLE (BENT,DOWN(, (OTHERS CIRCLED,RIPPLE (CURVED,STRAIGHT",
  "))),INDEX(, THUMB),RAISED KNUCKLE,T(HUMB,OUCHES THUMB),UP),MIDDLE (BENT OVER INDEX,DOWN,LITTLE",
  ",R(AISED KNUCKLE,ING LITTLE),THUMB (ANGLED (INDEX UP,OUT INDEX (CROSSED,UP)),C(IRCLED INDEX (H",
  "INGED,UP),UPPED INDEX UP),HOOKED INDEX UP,LITTLE),UP(, THUMB SIDE)),RING (DOWN,INDEX,LITTLE,MI",
  "DDLE(, (CONJOINED,RAISED KNUCKLES)),RAISED KNUCKLE,THUMB,UP),THUMB(, (BETWEEN (INDEX MIDDLE(, ",
  "STRAIGHT),MIDDLE RING,RING LITTLE),FORWARD,HEEL,OVER (FOUR RAISED KNUCKLES,TWO FINGERS),SIDE (",
  "BENT,CONJOINED,DIAGONAL),UNDER (FOUR FINGERS,INDEX BENT,LITTLE UP,T(HREE FINGERS,WO FINGERS)))",
  "))),LAT(, (BETWEEN PALM FACINGS,F(IVE FINGERS SPREAD(, (BENT,FOUR BENT,HINGED(, (NO THUMB,THUM",
  "B SIDE)),THUMB FORWARD)),OUR FINGERS(, (BENT,CONJOINED(, SPLIT),HINGED))),HEEL(, (FIVE FINGERS",
  " SPREAD(, (BENT,FOUR BENT)),THUMB SIDE)),SPLIT (CENTRE(, THUMB SIDE(, BENT)),INDEX THUMB SIDE,",
  "LITTLE),THUMB (BENT,FORWARD,SIDE)))),H(INGE(, (F(IVE FINGERS SPREAD OPEN,OUR FINGERS CONJOINED",
  "),INDEX(, (HINGED,MIDDLE (LITTLE,RING(, CONJOINED)),RING LITTLE,THUMB(, (LARGE,OPEN,S(IDE,MALL",
  "))))),LITTLE(, (INDEX(, THUMB),THUMB)),MIDDLE(, RING LITTLE),NO THUMB,OPEN(, (NO THUMB,THUMB (",
  "FORWARD,SIDE))),RING(, DOWN INDEX THUMB HOOK MIDDLE),SMALL,THUMB (BETWEEN MIDDLE RING,SIDE(, T",
  "OUCHING INDEX)))),OOK(, (CURLICUE,INDEX RING LITTLE (IN,OUT,UNDER),MIDDLE (RING LITTLE CONJOIN",
  "ED(, (IN,OUT)),THUMB),RING THUMB))),OVAL(, (FIVE FINGERS SPREAD,INDEX,LITTLE UP,NO THUMB,RING ",
  "LITTLE,THUMB (FORWARD,SIDE))))),EAD(, (MOVEMENT( CIRCLE,-(FLOORPLANE (CURVE,STRAIGHT),WALLPLAN",
  "E (CURVE,STRAIGHT,TILT))),RIM))),L(I(MB (COMBINATION,LENGTH-(1,2,3,4,5,6,7)),P( (LOWER OVER UP",
  "PER,UPPER OVER LOWER),S PRESSED TOGETHER)),OCATION( (DEPTH,HE(AD NECK,IGHT),LIMBS DIGITS,TORSO",
  ",WIDTH),-(FLOORPLANE SPACE,WALLPLANE SPACE))),MO(UTH (C(LOSED (CONTACT,FORWARD,NEUTRAL),ORNERS",
  "),FROWN(, (OPEN,WRINKLED)),KISS(, (FORWARD,WRINKLED)),OPEN (CIRCLE,FORWARD,OVAL(, (WRINKLED,YA",
  "WN)),RECTANGLE(, (WRINKLED,YAWN)),WRINKLED),SMILE(, (OPEN,WRINKLED)),TENSE(, (FORWARD,SUCKED))",
  ",WRINKLES (DOUBLE,SINGLE)),VEMENT-(DIAGONAL (AWAY (LARGE(,ST),MEDIUM,SMALL),BETWEEN (AWAY (LAR",
  "GE(,ST),MEDIUM,SMALL),TOWARDS (LARGE(,ST),MEDIUM,SMALL)),TOWARDS (LARGE(,ST),MEDIUM,SMALL)),FL",
  "OORPLANE (ARM CIRCLE HITTING WALL (LARGE (DOUBLE,SINGLE),MEDIUM (DOUBLE,SINGLE),SMALL (DOUBLE,",
  "SINGLE)),B(END,OX (LARGE,MEDIUM,SMALL)),C(HECK,ORNER (LARGE,MEDIUM,SMALL),ROSS,URVE (COMBINED,",
  "HITTING (CEILING (LARGE,SMALL),FLOOR (LARGE,SMALL)),LARGE(,ST),MEDIUM,SMALL)),DOUBLE (ALTERNAT",
  "ING(, WRIST FLEX),STRAIGHT,WRIST FLEX),FINGER C(IRCLES HITTING WALL (DOUBLE,SINGLE),ONTACT),HU",
  "MP (HITTING (CEILING (LARGE (DOUBLE,TRIPLE),SMALL (DOUBLE,TRIPLE)),FLOOR (LARGE DOUBLE,SMALL D",
  "OUBLE,TRIPLE (LARGE TRIPLE,SMALL TRIPLE))),SMALL),JAW,LOOP (HITTING (CEILING (LARGE (DOUBLE,SI",
  "NGLE),SMALL (DOUBLE,SINGLE)),FLOOR (LARGE (DOUBLE,SINGLE),SMALL (DOUBLE,SINGLE))),SMALL),PEAKS",
  " (LARGE,MEDIUM,SMALL),S(HAKING PARALLEL,INGLE (STRAIGHT (LARGE(,ST),MEDIUM,SMALL),WRIST FLEX))",
  ",TRIPLE (ALTERNATING (MOVEMENT,WRIST FLEX),STRAIGHT MOVEMENT,WRIST FLEX),W(AVE (HITTING (CEILI",
  "NG (LARGE,SMALL),FLOOR (LARGE,SMALL)),LARGE,S(MALL,NAKE)),RIST CIRCLE HITTING WALL (DOUBLE,SIN",
  "GLE)),ZIGZAG (LARGE,MEDIUM,SMALL)),HINGE (DOWN SEQUENTIAL,SIDE TO SIDE SCISSORS,UP (DOWN (ALTE",
  "RNATING (LARGE,SMALL),LARGE,SMALL),SEQUENTIAL)),WALLPLANE (ARM CIRCLE (MEDIUM (DOUBLE,SINGLE),",
  "SMALL (DOUBLE,SINGLE)),B(END (LARGE,MEDIUM,SMALL),OX (LARGE,MEDIUM,SMALL)),C(HECK (LARGE,MEDIU",
  "M,SMALL),ORNER (LARGE,MEDIUM,ROTATION,SMALL),ROSS,URVE( (H(ALF-CIRCLE (LARGE(,ST),MEDIUM,SMALL",
  "),ITTING (CHEST,FRONT WALL)),QUARTER (LARGE(,ST),MEDIUM,SMALL),TH(EN STRAIGHT,REE-QUARTER CIRC",
  "LE (MEDIUM,SMALL))),D CROSS (MEDIUM,SMALL))),DOUBLE (ALTERNATING(, WRIST FLEX),STRAIGHT,WRIST ",
  "FLEX),FINGER C(IRCLES (DOUBLE,SINGLE),ONTACT),HUMP (HITTING (CHEST,FRONT WALL),LARGE,MEDIUM,SM",
  "ALL),JAW,LOOP (HITTING (CHEST,FRONT WALL),LARGE,MEDIUM,SMALL(, DOUBLE)),PEAKS (LARGE,MEDIUM,SM",
  "ALL),S(HAKING,INGLE (STRAIGHT (LARGE(,ST),MEDIUM,SMALL),WRIST FLEX)),TRIPLE (ALTERNATING(, WRI",
  "ST FLEX),STRAIGHT MOVEMENT,WRIST FLEX),W(AVE (CURVE (DOUBLE (LARGE,MEDIUM,SMALL),TRIPLE (LARGE",
  ",MEDIUM,SMALL)),DIAGONAL PATH (LARGE,MEDIUM,SMALL),HITTING (CHEST,FRONT WALL)),RIST CIRCLE FRO",
  "NT (DOUBLE,SINGLE)),ZIGZAG (LARGE,MEDIUM,SMALL)))),N(ECK,OSE (CONTACT,NEUTRAL,W(IGGLES,RINKLES",
  "))),PARENTHESIS,R(OTATION( MODIFIER-(1(0,1,2,3,4,5,6),2,3,4,5,6,7,8,9),-(FLOORPLANE (ALTERNATI",
  "NG(, HITTING (CEILING,FLOOR)),DOUBLE(, HITTING (CEILING,FLOOR)),SINGLE(, HITTING (CEILING,FLOO",
  "R))),WALLPLANE (ALTERNAT(E,ING HITTING (CHEST,FRONT WALL)),DOUBLE(, HITTING (CHEST,FRONT WALL)",
  "),SINGLE(, HITTING (CHEST,FRONT WALL))))),UB (BETWEEN,MULTIPLE,SINGLE)),S(EMICOLON,HOULDER (HI",
  "P (POSITIONS,SPINE),TILTING FROM WAIST),QUEEZE (FLICK ALTERNATING,LARGE (MULTIPLE,SINGLE),S(EQ",
  "UENTIAL,MALL (MULTIPLE,SINGLE))),TRIKE (BETWEEN,MULTIPLE,SINGLE),URFACE (BETWEEN,SYMBOLS)),T(E",
  "(ETH(, (BITE LIPS,MOVEMENT,ON (LIPS(, MOVEMENT),TONGUE(, MOVEMENT)))),NSE CHEEKS (HIGH,LOW,MID",
  "DLE)),O(NGUE (CENTRE (INSIDE MOUTH,STICKING OUT),INSIDE MOUTH RELAXED,LICKING LIPS,MOVES AGAIN",
  "ST CHEEK,STICKING OUT FAR,TIP (BETWEEN LIPS,TOUCHING INSIDE MOUTH)),RSO-(FLOORPLANE TWISTING,W",
  "ALLPLANE (CURVED BEND,STRAIGHT STRETCH)),UCH (BETWEEN,MULTIPLE,SINGLE)),RAVEL-(FLOORPLANE (ROT",
  "ATION-(FLOORPLANE (ALTERNATING,DOUBLE,SINGLE),WALLPLANE (ALTERNATING,DOUBLE,SINGLE)),SHAKING),",
  "WALLPLANE (ARM SPIRAL (DOUBLE,SINGLE,TRIPLE),ROTATION-(FLOORPLANE (ALTERNATING,DOUBLE,SINGLE),",
  "WALLPLANE (ALTERNATING,DOUBLE,SINGLE)),SHAKING))),UPPER BODY TILTING FROM HIP JOINTS,WALLPLANE",
  " SHOULDER HIP MOVE)),LHOUETTE OF JAPAN,MILAR (ABOVE (GREATER-THAN ABOVE EQUALS SIGN,LESS-THAN ",
  "ABOVE EQUALS SIGN),MINUS SIMILAR,OR (GREATER-THAN,LESS-THAN)),N(E WAVE,GLE( (CHARACTER INTRODU",
  "CER,GRAPHIC CHARACTER INTRODUCER,HIGH-REVERSED-9 QUOTATION MARK,L(EFT-POINTING ANGLE QUOTATION",
  " MARK,OW-9 QUOTATION MARK),RIGHT-POINTING ANGLE QUOTATION MARK,SHIFT T(HREE,WO)),-SHIFT-(2,3))",
  ",HALA (ARCHAIC (DIGIT (EIGHT,F(IVE,OUR),NINE,ONE,S(EVEN,IX),T(HREE,WO)),NUMBER (EIGHTY,F(IFTY,",
  "ORTY),NINETY,ONE (HUNDRED,THOUSAND),S(EVENTY,IXTY),T(EN,HIRTY,WENTY))),L(ETTER (A(AYANNA,E(EYA",
  "NNA,YANNA),IYANNA,LPAPRAANA (BAYANNA,CAYANNA,D(AYANNA,DAYANNA),GAYANNA,JAYANNA,KAYANNA,PAYANNA",
  ",T(AYANNA,TAYANNA)),MBA BAYANNA,UYANNA,YANNA),DANTAJA (LAYANNA,NAYANNA,SAYANNA),E(EYANNA,YANNA",
  "),FAYANNA,HAYANNA,I(IYANNA,LU(UYANNA,YANNA),RU(UYANNA,YANNA),YANNA),KANTAJA NAASIKYAYA,M(A(HAA",
  "PRAANA (BAYANNA,CAYANNA,D(AYANNA,DAYANNA),GAYANNA,JAYANNA,KAYANNA,PAYANNA,T(AYANNA,TAYANNA)),Y",
  "ANNA),UURDHAJA (LAYANNA,NAYANNA,SAYANNA)),O(OYANNA,YANNA),RAYANNA,SANYAKA (D(AYANNA,DAYANNA),G",
  "AYANNA,JAYANNA),TAALUJA (NAASIKYAYA,SA(NYOOGA NAAKSIKYAYA,YANNA)),U(UYANNA,YANNA),VAYANNA,YAYA",
  "NNA),ITH DIGIT (EIGHT,F(IVE,OUR),NINE,ONE,S(EVEN,IX),T(HREE,WO),ZERO)),PUNCTUATION KUNDDALIYA,",
  "SIGN (A(L-LAKUNA,NUSVARAYA),CANDRABINDU,VISARGAYA),VOWEL SIGN (AELA-PILLA,DIGA (AEDA-PILLA,GA(",
  "ETTA-PILLA,YANUKITTA),IS-PILLA,KOMBUVA,PAA-PILLA),GA(ETTA-PILLA,YANUKITTA),K(ETTI (AEDA-PILLA,",
  "IS-PILLA,PAA-PILLA),OMBU( DEKA,VA(, HAA (AELA-PILLA,DIGA AELA-PILLA,GAYANUKITTA))))))),X( P(ET",
  "ALLED BLACK AND WHITE FLORETTE,OINTED (BLACK STAR,PINWHEEL STAR,STAR WITH MIDDLE DOT)),-PER-EM",
  " SPACE,TEEN POINTED ASTERISK)),K(ATEBOARD,I( AND SKI BOOT,ER),U(LL(, AND CROSSBONES),NK)),L(A(",
  "NTED (EQUAL TO OR (GREATER-THAN(, WITH DOT INSIDE),LESS-THAN(, WITH DOT INSIDE)),NORTH ARROW W",
  "ITH HO(OKED HEAD,RIZONTAL TAIL)),VONIC ASTERISK),E(D,EP(ING (ACCOMMODATION,FACE,SYMBOL),Y FACE",
  "),UTH OR SPY),I(CE OF PIZZA,GHTLY (FROWNING FACE,SMILING FACE)),O(P(E,ING LARGE (AND,OR)),T( M",
  "ACHINE,H))),M(A(LL( (A(IRPLANE,MPERSAND,STERISK),BLUE DIAMOND,CO(LON,MM(A,ERCIAL AT),NTAINS (A",
  "S MEMBER,WITH (OVERBAR,VERTICAL BAR AT END OF HORIZONTAL STROKE))),DOLLAR SIGN,E(LEMENT OF(, W",
  "ITH (OVERBAR,VERTICAL BAR AT END OF HORIZONTAL STROKE)),M DASH,QUALS SIGN,XCLAMATION MARK),FUL",
  "L STOP,GREATER-THAN SIGN,HYPHEN-MINUS,IDEOGRAPHIC COMMA,LE(FT (CURLY BRACKET,PARENTHESIS,TORTO",
  "ISE SHELL BRACKET),SS-THAN SIGN),NUMBER SIGN,ORANGE DIAMOND,P(ERCENT SIGN,LUS SIGN),QUESTION M",
  "ARK,R(EVERSE SOLIDUS,IGHT (CURLY BRACKET,PARENTHESIS,TORTOISE SHELL BRACKET),OMAN NUMERAL (E(I",
  "GHT,LEVEN),F(I(FTY,VE(, HUNDRED)),OUR),NINE,ONE(, (HUNDRED,THOUSAND)),S(EVEN,IX),T(EN,HREE,W(E",
  "LVE,O)))),SEMICOLON,T(ILDE,WO DOTS OVER ONE DOT PUNCTUATION),VEE WITH UNDERBAR),ER THAN(, OR E",
  "QUAL TO)),SH PRODUCT),I(L(E,ING (CAT FACE WITH (HEART-SHAPED EYES,OPEN MOUTH),FACE WITH (H(ALO",
  ",EART-SHAPED EYES,ORNS),OPEN MOUTH(, AND (COLD SWEAT,SMILING EYES,TIGHTLY-CLOSED EYES)),S(MILI",
  "NG EYES(, AND (HAND COVERING MOUTH,THREE HEARTS)),UNGLASSES),TEAR))),RKING FACE),OKING SYMBOL)",
  ",N(A(IL,KE),EEZING FACE,OW( CAPPED MOUNTAIN,BOARDER,FLAKE,MAN(, WITHOUT SNOW))),O(,C(CER BALL,",
  "KS),FT( (HYPHEN,ICE CREAM,SHELL FLOPPY DISK),BALL,WARE-FUNCTION SYMBOL),GDIAN (COMBINING (CURV",
  "E (ABOVE,BELOW),DOT (ABOVE,BELOW),HOOK (ABOVE,BELOW),LONG HOOK BELOW,RESH BELOW,STROKE BELOW,T",
  "WO DOTS (ABOVE,BELOW)),INDEPENDENT SHIN,LETTER (A(LEPH,YIN),BETH,FETH,GIMEL,HE(,TH),KAPH,L(AME",
  "DH,ESH),MEM,NUN,PE,RESH-AYIN,S(A(DHE,MEKH),HIN),TAW,WAW,YODH,ZAYIN),NUMBER (ONE(, HUNDRED),T(E",
  "N,WENTY)),PUNCTUATION (CIRCLE WITH DOT,HALF CIRCLE WITH DOT,TWO (CIRCLES WITH DOTS,VERTICAL BA",
  "RS(, WITH DOTS)))),H,LID( QUILT SQUARE ORNAMENT(, IN BLACK SQUARE),US(, WITH OVERBAR)),M SIGN,",
  "ON WITH RIGHTWARDS ARROW ABOVE,RA SOMPENG (DIGIT (EIGHT,F(IVE,OUR),NINE,ONE,S(EVEN,IX),T(HREE,",
  "WO),ZERO),LETTER (AH,BAH,CAH,DAH,E(EH,H),GAH,HAH,IH,JAH,KAH,LAH,MA(E,H),N(AH,GAH,YAH),OH,PAH,R",
  "AH,SAH,TAH,UH,VAH,YAH)),S,U(ND RECORDING COPY",
  "RIGHT,TH (EAST (ARROW(, (AND SOUTH WEST ARROW,CROSSING NORTH EAST ARROW,TO CORNER,WITH HOOK)),",
  "BLACK ARROW,DOUBLE ARROW,POINTING (BUD,LEAF,VINE LEAF),SANS-SERIF ARROW,TRIANGLE-HEADED ARROW(",
  ", TO BAR),WHITE ARROW),WEST (ARROW(, (AND NORTH WEST ARROW,WITH HOOK)),BLACK ARROW,DOUBLE ARRO",
  "W,POINTING (BUD,LEAF,VINE LEAF),SANS-SERIF ARROW,TRIANGLE-HEADED ARROW(, TO BAR),WHITE ARROW))",
  "),YOMBO (CLUSTER-INITIAL LETTER (LA,RA,S(A,HA)),FINAL CONSONANT SIGN (-A,B,D,G,K,L,M,N(,G),R,S",
  "(,H)),GEMINATION MARK,HEAD MARK WITH MOON AND SUN(, AND (FLAME,TRIPLE FLAME)),LETTER (-A,A,B(A",
  ",HA),C(A,HA),D(A,D(A,HA),HA,ZA),G(A,HA),HA,J(A,HA),K(A,HA,SSA),LA,MA,N(A,GA,NA,YA),P(A,HA),RA,",
  "S(A,HA,SA),T(A,HA,S(A,HA),T(A,HA)),VA,YA,Z(A,HA)),MARK (DOUBLE SHAD,PLUTA,SHAD,TSHEG),S(IGN (A",
  "NUSVARA,JIHVAMULIYA,UPADHMANIYA,VISARGA),UBJOINER),TERMINAL MARK-(1,2),VOWEL (LENGTH MARK,SIGN",
  " (A(I,U),E,I,O(,E),U(,E),VOCALIC (L,R))))),P(,A(,CE,GHETTI,RKL(E(,S),ING HEART)),E(AK(-NO-EVIL",
  " MONKEY,ER(, WITH (CANCELLATION STROKE,ONE SOUND WAVE,THREE SOUND WAVES)),ING HEAD IN SILHOUET",
  "TE),E(CH BALLOON,DBOAT),SMILO SIGN),HERICAL ANGLE(, OPENING (LEFT,UP)),I(DER(, WEB),RAL (CALEN",
  "DAR PAD,NOTE PAD,SHELL)),LASHING SWEAT SYMBOL,O(NGE,O(L OF THREAD,N),RTS MEDAL,UTING WHALE)),Q",
  "U(A(RE( (A( OVER M,ARU,M,NPEA,PAATO,RUHUA,U),B(A(ARERU,R),EETA,IRU,ORUTO,Q,USSYERU),C( OVER KG",
  ",A(L,P),C,D,M(, (CUBED,SQUARED)),O(,RPORATION),UP),D(A(,ASU),B,ESI,J,L,M(, (CUBED,SQUARED)),OR",
  "U),E(EKAA,R(A NAME (HEISEI,MEIZI,REIWA,SYOUWA,TAISYOU),G),SUKUUDO,V),F(M,O(OT,UR CORNERS)),G(A",
  "(L,NMA,RON),B,HZ,I(GA,NII,RUDAA),PA,URAMU(,TON),Y),H(A(,ITU),E(KUTAARU,RUTU),G,IRAGANA HOKA,O(",
  "N,O(N,RU)),P(,A),U(ARADDO,IITO,RAN),Z),I(MAGE OF(, OR (EQUAL TO,NOT EQUAL TO)),N(,INGU,TI),U),",
  "K( OHM,A(,IRI,R(ATTO,ORII)),B,CAL,EESU,G,HZ,IRO(,GURAMU,MEETORU,WATTO),K,L,M(, (C(APITAL,UBED)",
  ",SQUARED)),O(OPO,RUNA),PA,T,UR(OONE,UZEIRO),V,W,YURII),L(EFT OPEN BOX OPERATOR,M,N,O(G,ZENGE),",
  "X),M( (CUBED,O(HM,VER S(, SQUARED)),SQUARED),A(,HHA,I(KURO,RU),NSYON,RUKU),B(, SMALL),E(ETORU,",
  "GA(,TON)),G,HZ,I(KURON,L,RI(,BAARU)),L,M(, (CUBED,SQUARED)),OL,PA,S,U (A,F,G,L,M,S,V,W),V(, ME",
  "GA),W(, MEGA)),N(A(,NO),F,M,OTTO,S,V,W),O(NSU,OMU,RIGINAL OF(, OR (EQUAL TO,NOT EQUAL TO)),V),",
  "P(A(, AMPS,A(SENTO,TU)),C,E(EZI,N(IHI,SU),SO),F,H,I(ASUTORU,K(O,URU)),M,O(INTO,NDO,SITION INDI",
  "CATOR),PM,R,S,V,W),R(AD(, OVER S(, SQUARED)),E(MU,NTOGEN),I(GHT OPEN BOX OPERATOR,RA,TTORU),OO",
  "T,U(PII,UBURU)),S(A(IKURU,NTIIMU),ENT(I,O),IRINGU,R,V),T(ARGET,HZ,ON),UON,V OVER M,W(ATTO,B,IT",
  "H (BOTTOM HALF BLACK,CONTOURED OUTLINE,DIAGONAL CROSSHATCH FILL,HORIZONTAL FILL,L(EFT HALF BLA",
  "CK,OWER (LEFT DIAGONAL HALF BLACK,RIGHT DIAGONAL HALF BLACK)),ORTHOGONAL CROSSHATCH FILL,RIGHT",
  " HALF BLACK,TOP HALF BLACK,UPPER (LEFT (DIAGONAL HALF BLACK,TO LOWER RIGHT FILL),RIGHT (DIAGON",
  "AL HALF BLACK,TO LOWER LEFT FILL)),VERTICAL FILL)),Y(AA(DO,RU),UAN)),D (ASTERISK,C(JK UNIFIED ",
  "IDEOGRAPH-(4E(0(0,9),2D,8C,A4),5(18D,2(1D,4D,72),3(CC,F3),4(08,39),5B6,8F0,9(1A,29),B57,DE6,F8",
  "C),6(2(4B,53,95),3(07,55),5(99,B0),620,70(8,9),E80,F14),7(121,5(1F,33),981,A7A,D42),8(9E3,CA9,",
  "D70),9(04A,14D)),L,OOL),DOT OPERATOR,EIGHT K,F(ALLING DIAGONAL SLASH,IVE POINT ONE,OUR (DOT PU",
  "NCTUATION,K),REE),H(C,DR,I-RES,V),ID,K(ATAKANA (DE,KOKO,SA),EY),L(ATIN (CAPITAL LETTER (A,B,C,",
  "D,E,F,G,H,I,J,K,L,M,N,O,P,Q,R,S,T,U,V,W,X,Y,Z),SMALL LETTER D),O(GICAL (AND,OR),SSLESS)),M(INU",
  "S,V),N(EW,G),O(K,NE HUNDRED TWENTY P),P(LUS,PV),RISING DIAGONAL SLASH,S(ALTIRE,D,E(COND SCREEN",
  ",VEN POINT ONE),HV,IXTY P,MALL CIRCLE,OS,QUARE,S),T(HREE D,IMES,W(ENTY-TWO POINT TWO,O K)),U(H",
  "D,P WITH EXCLAMATION MARK),V(OD,S),WC)),T BLACK RIGHTWARDS ARROW),ID),S(2,3,A),T(,A(DIUM,FF OF",
  " (AESCULAPIUS,HERMES),MPED ENVELOPE,NDING PERSON,R( (AND CRESCENT,EQUALS,O(F DAVID,PERATOR),WI",
  "TH (LEFT HALF BLACK,RIGHT HALF BLACK)),T OF (GUARDED AREA,HEADING,PROTECTED AREA,S(ELECTED ARE",
  "A,TRING),TEXT)),T(ION,UE OF LIBERTY)),E(AM( LOCOMOTIVE,ING BOWL),NOGRAPHIC FULL STOP,THOSCOPE)",
  ",ICK FIGURE(, (LEANING (LEFT,RIGHT),WITH (ARMS RAISED,DRESS))),O(CK CHART,PWATCH),R(A(IGHT( RU",
  "LER,NESS),WBERRY),ESS OUTLINED WHITE STAR,I(CTLY EQUIVALENT TO,NG TERMINATOR)),S,U(DIO MICROPH",
  "ONE,FFED FLATBREAD,PA),X),U(B(,S(CRIPT (E(IGHT,QUALS SIGN),F(IVE,OUR),LEFT PARENTHESIS,MINUS,N",
  "INE,ONE,PLUS SIGN,RIGHT PARENTHESIS,S(EVEN,IX),T(HREE,WO),ZERO),ET (ABOVE (RIGHTWARDS ARROW,SU",
  "(BSET,PERSET)),OF(, (ABOVE (ALMOST EQUAL TO,EQUALS SIGN,NOT EQUAL TO,TILDE OPERATOR),OR EQUAL ",
  "TO(, WITH DOT ABOVE),WITH NOT EQUAL TO)),WITH (DOT,MULTIPLICATION SIGN BELOW,PLUS SIGN BELOW))",
  ",TITUTE)),CCEEDS(, (ABOVE (ALMOST EQUAL TO,EQUALS SIGN,NOT (ALMOST EQUAL TO,EQUAL TO),SINGLE-L",
  "INE (EQUALS SIGN,NOT EQUAL TO)),BUT NOT EQUIVALENT TO,OR EQU(AL TO,IVALENT TO),UNDER RELATION)",
  "),MMATION (BOTTOM,TOP,WITH INTEGRAL),N(, (BEHIND CLOUD,WITH FACE),DANESE (AVAGRAHA,CONSONANT S",
  "IGN PA(MINGKAL,NY(AKRA,IKU),SANGAN (MA,WA)),DIGIT (EIGHT,F(IVE,OUR),NINE,ONE,S(EVEN,IX),T(HREE",
  ",WO),ZERO),LETTER (A(,E),B(A,HA),CA,DA,E(,U),F(A,INAL (K,M)),GA,HA,I,JA,K(A,HA),L(A,EU),MA,N(A",
  ",GA,YA),O,PA,QA,R(A,EU),S(A,YA),TA,U,VA,WA,XA,YA,ZA),PUNCTUATION BINDU (BA SATANGA,CAKRA,DA SA",
  "TANGA,KA SATANGA,LEU SATANGA,P(ANGLONG,URNAMA),SURYA),SIGN (PA(MAAEH,N(G(LAYAR,WISAD),YECEK)),",
  "VIRAMA),VOWEL SIGN PA(MEPET,N(AELAENG,EULEUNG,GHULU,OLONG,YUKU))),FLOWER,RISE(, OVER MOUNTAINS",
  "),SET OVER BUILDINGS),PER(HERO,S(CRIPT (E(IGHT,QUALS SIGN),F(IVE,OUR),L(ATIN SMALL LETTER (I,N",
  "),EFT PARENTHESIS),MINUS,NINE,ONE,PLUS SIGN,RIGHT PARENTHESIS,S(EVEN,IX),T(HREE,WO),ZERO),ET (",
  "ABOVE (LEFTWARDS ARROW,SU(BSET,PERSET)),BESIDE (AND JOINED BY DASH WITH SUBSET,SUBSET),OF(, (A",
  "BOVE (ALMOST EQUAL TO,EQUALS SIGN,NOT EQUAL TO,TILDE OPERATOR),OR EQUAL TO(, WITH DOT ABOVE),W",
  "ITH NOT EQUAL TO)),PRECEDING SOLIDUS,WITH (DOT,MULTIPLICATION SIGN BELOW,PLUS SIGN BELOW))),VI",
  "LLAIN),RF(ACE INTEGRAL,ER),S(HI,PENSION RAILWAY)),W(A(N,SH AMPERSAND ORNAMENT),IMMER,UNG DASH)",
  ",Y(LOTI NAGRI (LETTER (A,B(HO,O),C(HO,O),D(D(HO,O),HO,O),E,G(HO,O),HO,I,J(HO,O),K(HO,O),LO,MO,",
  "NO,O,P(HO,O),R(O,RO),SO,T(HO,O,T(HO,O)),U),POETRY MARK-(1,2,3,4),SIGN (A(LTERNATE HASANTA,NUSV",
  "ARA),DVISVARA,HASANTA),VOWEL SIGN (A,E,I,OO,U)),M(BOL FOR (ACKNOWLEDGE,B(ACKSPACE,ELL),CA(NCEL",
  ",RRIAGE RETURN),D(ATA LINK ESCAPE,E(LETE(, FORM TWO),VICE CONTROL (FOUR,ONE,T(HREE,WO)))),E(N(",
  "D OF (MEDIUM,T(EXT,RANSMISSION(, BLOCK))),QUIRY),SCAPE),F(ILE SEPARATOR,ORM FEED),GROUP SEPARA",
  "TOR,HORIZONTAL TABULATION,LINE FEED,MARKS CHAPTER,N(E(GATIVE ACKNOWLEDGE,WLINE),ULL),RECORD SE",
  "PARATOR,S(AMARITAN SOURCE,HIFT (IN,OUT),PACE,TART OF (HEADING,TEXT),UBSTITUTE(, FORM TWO),YNCH",
  "RONOUS IDLE),TYPE A ELECTRONICS,UNIT SEPARATOR,VERTICAL TABULATION),METRY),N(,AGOGUE,CHRONOUS ",
  "IDLE),RI(AC (ABBREVIATION MARK,BARREKH,CO(LON SKEWED (LEFT,RIGHT),NTRACTION),DOTTED ZLAMA (ANG",
  "ULAR,HORIZONTAL),E(ND OF PARAGRAPH,SASA (ABOVE,BELOW)),FEMININE DOT,H(ARKLEAN (ASTERISCUS,METO",
  "BELUS,OBELUS),BASA( (ABOVE,BELOW),-ESASA DOTTED),ORIZONTAL COLON),LETTER (ALAPH,BETH,D(ALATH,O",
  "TLESS DALATH RISH),E,FINAL SEMKATH,GAMAL(, GARSHUNI),HE(,TH),KAPH,LAMADH,M(ALAYALAM (BHA,JA,LL",
  "(A,LA),N(GA,N(A,NA),YA),RA,SSA,TTA),IM),NUN,PE(,RSIAN (BHETH,DHALATH,GHAMAL)),QAPH,R(EVERSED P",
  "E,ISH),S(ADHE,EMKATH,HIN,OGDIAN (FE,KHAPH,ZHAIN),UPERSCRIPT ALAPH),T(AW,ETH(, GARSHUNI)),WAW,Y",
  "UDH(, HE),ZAIN),MUSIC,OBLIQUE LINE (ABOVE,BELOW),PTHAHA (ABOVE,BELOW,DOTTED),QUSHSHAYA,R(BASA ",
  "(ABOVE,BELOW),UKKAKHA,WAHA),SU(BLINEAR (COLON(, SKEWED (LEFT,RIGHT)),FULL STOP),PRALINEAR (COL",
  "ON(, SKEWED LEFT),FULL STOP)),T(HREE DOTS (ABOVE,BELOW),WO VERTICAL DOTS (ABOVE,BELOW)),ZQAPHA",
  " (ABOVE,BELOW,DOTTED)),NGE)))"]

/-- The names that start with T. -/
def startingWithT : List String := [
  "T(-(REX,SHIRT),A(B(,LE TENNIS PADDLE AND BALL),CO,G( (A(MPERSAND,POSTROPHE,STERISK),C(IRCUMFLE",
  "X ACCENT,O(LON,MM(A,ERCIAL AT))),D(IGIT (EIGHT,F(IVE,OUR),NINE,ONE,S(EVEN,IX),T(HREE,WO),ZERO)",
  ",OLLAR SIGN),E(QUALS SIGN,XCLAMATION MARK),FULL STOP,GR(AVE ACCENT,EATER-THAN SIGN),HYPHEN-MIN",
  "US,L(ATIN (CAPITAL LETTER (A,B,C,D,E,F,G,H,I,J,K,L,M,N,O,P,Q,R,S,T,U,V,W,X,Y,Z),SMALL LETTER (",
  "A,B,C,D,E,F,G,H,I,J,K,L,M,N,O,P,Q,R,S,T,U,V,W,X,Y,Z)),E(FT (CURLY BRACKET,PARENTHESIS,SQUARE B",
  "RACKET),SS-THAN SIGN),OW LINE),NUMBER SIGN,P(ERCENT SIGN,LUS SIGN),QU(ESTION MARK,OTATION MARK",
  "),R(EVERSE SOLIDUS,IGHT (CURLY BRACKET,PARENTHESIS,SQUARE BRACKET)),S(EMICOLON,OLIDUS,PACE),TI",
  "LDE,VERTICAL LINE),ALOG (LETTER (A(,RCHAIC RA),BA,DA,GA,HA,I,KA,LA,MA,N(A,GA),PA,RA,SA,TA,U,WA",
  ",YA),SIGN (PAMUDPOD,VIRAMA),VOWEL SIGN (I,U)),BANWA (LETTER (A,BA,DA,GA,I,KA,LA,MA,N(A,GA),PA,",
  "SA,TA,U,WA,YA),VOWEL SIGN (I,U))),I (LE LETTER (A(,I,UE),E(,E,H),FA,HA,I,K(A,HA),LA,MA,N(A,GA)",
  ",O(,O),P(A,HA),QA,SA,T(A,HA,ONE-(2,3,4,5,6),S(A,HA)),U(,E),VA,XA,YA),THAM (CO(MBINING CRYPTOGR",
  "AMMIC DOT,NSONANT SIGN (BA,FINAL NGA,HIGH RATHA OR LOW PA,L(A TANG LAI,OW PA),M(A,EDIAL (LA,RA",
  ")),SA)),HORA DIGIT (EIGHT,F(IVE,OUR),NINE,ONE,S(EVEN,IX),T(HREE,WO),ZERO),LETTER (A,BA,DA,EE,G",
  "REAT SA,HIGH (C(A,HA),FA,HA,K(A,HA,XA),P(A,HA),RATHA,S(A,HA,SA),T(A,HA),YA),I(,I),L(A(,E),LA,O",
  "W (C(A,HA),FA,HA,K(A,HA,XA),P(A,HA),RATHA,SA,T(A,HA),YA),UE),MA,N(A,GA,YA),OO,R(A(,NA,TA),UE),",
  "U(,U),WA),SIGN (CAANG,DOKMAI,H(ANG,OY),K(AAN(,KUU),EOW,HUEN( TONE-(3,4,5),-LUE KARAN)),MAI (KA",
  "NG(, LAI),SAM,YAMOK),R(A HAAM,EVERSED ROTATED RANA),SA(KOT,TKAAN(,KUU),WAN),TONE-(1,2),WIANG(,",
  "WAAK)),THAM DIGIT (EIGHT,F(IVE,OUR),NINE,ONE,S(EVEN,IX),T(HREE,WO),ZERO),VOWEL SIGN (A(,A,E,I)",
  ",E,I(,I),MAI SAT,O(,A (ABOVE,BELOW),O,Y),T(ALL AA,HAM AI),U(,E,U(,E)))),VIET (LETTER (HIGH (BO",
  ",C(HO,O),DO,FO,GO,HO,K(H(HO,O),O),LO,MO,N(GO,O,YO),O,P(HO,O),RO,SO,T(HO,O),VO,YO),LOW (BO,C(HO",
  ",O),DO,FO,GO,HO,K(H(HO,O),O),LO,MO,N(GO,O,YO),O,P(HO,O),RO,SO,T(HO,O),VO,YO)),MAI K(ANG,HIT),S",
  "YMBOL (HO HOI,KO(I KOI,N),NUENG,SAM),TONE MAI (EK,NUENG,SONG,THO),VOWEL (A(A,M,N,UE,Y),E,I(,A)",
  ",O,U(,A,E(,A))))),K(EOUT BOX,RI (ABBREVIATION SIGN,DIGIT (EIGHT,F(IVE,OUR),NINE,ONE,S(EVEN,IX)",
  ",T(HREE,WO),ZERO),LETTER (A(,A,I,RCHAIC KHA,U),B(A,HA),C(A,HA),D(A,D(A,HA),HA),E,G(A,HA),HA,I(",
  ",I),J(A,HA),K(A,HA),LA,MA,N(A,GA,NA,YA),O,P(A,HA),R(A,RA),S(A,HA),T(A,HA,T(A,HA)),U(,U),VA,YA)",
  ",SIGN (ANUSVARA,NUKTA,VI(RAMA,SARGA)),VOWEL SIGN (A(A,I,U),E,I(,I),O,U(,U)))),LLY MARK (FIVE,O",
  "NE),M(ALE,IL (A(ND ODD SIGN,S ABOVE SIGN,U LENGTH MARK),C(REDIT SIGN,URRENT SIGN),D(AY SIGN,EB",
  "IT SIGN,IGIT (EIGHT,F(IVE,OUR),NINE,ONE,S(EVEN,IX),T(HREE,WO),ZERO),RY CULTIVATION SIGN),FRACT",
  "ION (DOWNSCALING FACTOR KIIZH,ONE (EIGHT(H,IETH),F(IFTH,ORTIETH),HALF-(1,2),ONE-HUNDRED-AND-SI",
  "XTIETH,QUARTER,SIXT(EENTH-(1,2),Y-FOURTH),T(ENTH,H(IRTY-SECOND,REE-HUNDRED-AND-TWENTIETH),WENT",
  "IETH)),THREE (EIGHTIETHS,QUARTERS,SIXT(EENTHS,Y-FOURTHS),TWENTIETHS)),IN POSSESSION SIGN,L(AND",
  " SIGN,ETTER (A(,A,I,U),CA,E(,E),HA,I(,I),JA,KA,L(A,L(A,LA)),MA,N(A,GA,N(A,NA),YA),O(,O),PA,R(A",
  ",RA),S(A,HA,SA),T(A,TA),U(,U),VA,YA)),MONTH SIGN,NUMBER (ONE (HUNDRED,THOUSAND),SIGN,TEN),OM,P",
  "UNCTUATION END OF TEXT,RUPEE SIGN,S(ALT PAN SIGN,IGN (A(AZHAAKKU,NUSVARA),CEVITU,K(AACU,U(RUNI",
  ",ZHI)),MU(KKURUNI,THALIYA,UVUZHAKKU),NEL,P(A(ARAM,NAM,THAKKU),ON),UZHAKKU,V(A(KAIYARAA,RAAKAN)",
  ",ELI,I(RAMA,SARGA))),PENT SIGN,TARTING FROM SIGN),T(OTAL SIGN,RADITIONAL (CREDIT SIGN,NUMBER S",
  "IGN)),VOWEL SIGN (A(A,I,U),E(,E),I(,I),O(,O),U(,U)),WET CULTIVATION SIGN,YEAR SIGN)),N(ABATA T",
  "REE,G(ERINE,SA (DIGIT (EIGHT,F(IVE,OUR),NINE,ONE,S(EVEN,IX),T(HREE,WO),ZERO),LETTER (A(C,Q,W(C",
  ",Q,X,Z),X,Z),BA,C(A,HA),D(A,HA),E(C,Q,X,Z),F(A,INAL NG),G(A,HA),H(A,T(A,TA)),I(C,Q,X,Z),K(A,HA",
  "),L(A,ONG UEX),M(A,C,Q,X,Z),N(A,GA,HA,YA),O(C,Q,X,Z),P(A,HA),RA,S(A,H(A,ORT (AWX,UEZ))),T(A,HA",
  ",SA),U(C,E(C,Q,X,Z),I(C,Q,U(C,Q,X,Z),X,Z),Q,X,Z),V(C,Q,X,Z),WA,XA,YA,ZA)),UT (COMPONENT-(0(0(1",
  ",2,3,4,5,6,7,8,9),1(0,1,2,3,4,5,6,7,8,9),2(0,1,2,3,4,5,6,7,8,9),3(0,1,2,3,4,5,6,7,8,9),4(0,1,2",
  ",3,4,5,6,7,8,9),5(0,1,2,3,4,5,6,7,8,9),6(0,1,2,3,4,5,6,7,8,9),7(0,1,2,3,4,5,6,7,8,9),8(0,1,2,3",
  ",4,5,6,7,8,9),9(0,1,2,3,4,5,6,7,8,9)),1(0(0,1,2,3,4,5,6,7,8,9),1(0,1,2,3,4,5,6,7,8,9),2(0,1,2,",
  "3,4,5,6,7,8,9),3(0,1,2,3,4,5,6,7,8,9),4(0,1,2,3,4,5,6,7,8,9),5(0,1,2,3,4,5,6,7,8,9),6(0,1,2,3,",
  "4,5,6,7,8,9),7(0,1,2,3,4,5,6,7,8,9),8(0,1,2,3,4,5,6,7,8,9),9(0,1,2,3,4,5,6,7,8,9)),2(0(0,1,2,3",
  ",4,5,6,7,8,9),1(0,1,2,3,4,5,6,7,8,9),2(0,1,2,3,4,5,6,7,8,9),3(0,1,2,3,4,5,6,7,8,9),4(0,1,2,3,4",
  ",5,6,7,8,9),5(0,1,2,3,4,5,6,7,8,9),6(0,1,2,3,4,5,6,7,8,9),7(0,1,2,3,4,5,6,7,8,9),8(0,1,2,3,4,5",
  ",6,7,8,9),9(0,1,2,3,4,5,6,7,8,9)),3(0(0,1,2,3,4,5,6,7,8,9),1(0,1,2,3,4,5,6,7,8,9),2(0,1,2,3,4,",
  "5,6,7,8,9),3(0,1,2,3,4,5,6,7,8,9),4(0,1,2,3,4,5,6,7,8,9),5(0,1,2,3,4,5,6,7,8,9),6(0,1,2,3,4,5,",
  "6,7,8,9),7(0,1,2,3,4,5,6,7,8,9),8(0,1,2,3,4,5,6,7,8,9),9(0,1,2,3,4,5,6,7,8,9)),4(0(0,1,2,3,4,5",
  ",6,7,8,9),1(0,1,2,3,4,5,6,7,8,9),2(0,1,2,3,4,5,6,7,8,9),3(0,1,2,3,4,5,6,7,8,9),4(0,1,2,3,4,5,6",
  ",7,8,9),5(0,1,2,3,4,5,6,7,8,9),6(0,1,2,3,4,5,6,7,8,9),7(0,1,2,3,4,5,6,7,8,9),8(0,1,2,3,4,5,6,7",
  ",8,9),9(0,1,2,3,4,5,6,7,8,9)),5(0(0,1,2,3,4,5,6,7,8,9),1(0,1,2,3,4,5,6,7,8,9),2(0,1,2,3,4,5,6,",
  "7,8,9),3(0,1,2,3,4,5,6,7,8,9),4(0,1,2,3,4,5,6,7,8,9),5(0,1,2,3,4,5,6,7,8,9),6(0,1,2,3,4,5,6,7,",
  "8,9),7(0,1,2,3,4,5,6,7,8,9),8(0,1,2,3,4,5,6,7,8,9),9(0,1,2,3,4,5,6,7,8,9)),6(0(0,1,2,3,4,5,6,7",
  ",8,9),1(0,1,2,3,4,5,6,7,8,9),2(0,1,2,3,4,5,6,7,8,9),3(0,1,2,3,4,5,6,7,8,9),4(0,1,2,3,4,5,6,7,8",
  ",9),5(0,1,2,3,4,5,6,7,8,9),6(0,1,2,3,4,5,6,7,8,9),7(0,1,2,3,4,5,6,7,8,9),8(0,1,2,3,4,5,6,7,8,9",
  "),9(0,1,2,3,4,5,6,7,8,9)),7(0(0,1,2,3,4,5,6,7,8,9),1(0,1,2,3,4,5,6,7,8,9),2(0,1,2,3,4,5,6,7,8,",
  "9),3(0,1,2,3,4,5,6,7,8,9),4(0,1,2,3,4,5,6,7,8,9),5(0,1,2,3,4,5,6,7,8,9),6(0,1,2,3,4,5,6,7,8)))",
  ",ITERATION MARK))),PE (CARTRIDGE,DRIVE),URUS,XI),E(A(CUP WITHOUT HANDLE,POT,R(-OFF CALENDAR,DR",
  "OP-(BARBED RIGHTWARDS ARROW,SPOKED ASTERISK))),DDY BEAR,L(E(PHONE (LOCATION SIGN,ON TOP OF MOD",
  "EM,REC(EIVER(, WITH PAGE),ORDER),SIGN),SCOPE,VISION),UGU (AI LENGTH MARK,DIGIT (EIGHT,F(IVE,OU",
  "R),NINE,ONE,S(EVEN,IX),T(HREE,WO),ZERO),FRACTION DIGIT (ONE FOR (EVEN POWERS OF FOUR,ODD POWER",
  "S OF FOUR),T(HREE FOR (EVEN POWERS OF FOUR,ODD POWERS OF FOUR),WO FOR (EVEN POWERS OF FOUR,ODD",
  " POWERS OF FOUR)),ZERO FOR ODD POWERS OF FOUR),LE(NGTH MARK,TTER (A(,A,I,U),B(A,HA),C(A,HA),D(",
  "A,D(A,HA),HA,ZA),E(,E),G(A,HA),HA,I(,I),J(A,HA),K(A,HA),L(A,L(A,LA)),MA,N(A(,KAARA POLLU),GA,N",
  "A,YA),O(,O),P(A,HA),R(A,R(A,RA)),S(A,HA,SA),T(A,HA,SA,T(A,HA)),U(,U),V(A,OCALIC (L(,L),R(,R)))",
  ",YA)),SIGN (A(NUSVARA,VAGRAHA),C(ANDRABINDU,OMBINING (ANUSVARA ABOVE,CANDRABINDU ABOVE)),NUKTA",
  ",SIDDHAM,TUUMU,VI(RAMA,SARGA)),VOWEL SIGN (A(A,I,U),E(,E),I(,I),O(,O),U(,U),VOCALIC (L(,L),R(,",
  "R))))),N(GE SIGN,NIS RACQUET AND BALL,T),ST TUBE,TRAGRAM FOR (A(CCUMULATION,DVANCE,GGRAVATION,",
  "SCENT),B(ARRIER,OLD RESOLUTION,RANCHING OUT),C(ENTRE,HANGE,LOS(E(D MOUTH,NESS),URE),O(MPL(ETIO",
  "N,IANCE),N(STANCY,T(ACT,ENTION,RARIETY)))),D(ARKENING,E(CISIVENESS,FECTIVENESS OR DISTORTION,P",
  "ARTURE),I(FFICULTIES,M(INISHMENT,MING),VERGENCE),OUBT,UTIES),E(ASE,MBELLISHMENT,N(COUNTERS,DEA",
  "VOUR,LARGEMENT),TERNITY,XHAUSTION),F(AILURE,LIGHT,O(LLOWING,STERING),ULL( CIRCLE,NESS)),G(ATHE",
  "RING(, IN),OING TO MEET,REATNESS,UARDEDNESS),H(ARDNESS,OLDING BACK),IN(CREASE,NER),JOY,K(EEPIN",
  "G SMALL,INSHIP),L(A(BOURING,W OR MODEL),EGION),M(ASSING,EASURE,IRED),O(N THE VERGE,PPOSITION),",
  "P(A(CKING,TTERN),ENETRATION,URITY),R(E(ACH,LEASE,S(I(DENCE,STANCE),PONSE)),ITUAL),S(EVERANCE,I",
  "NKING,T(O(PPAGE,VE),RENGTH)),UNITY,VASTNESS OR WASTING,WA(ITING,TCH),YOUTHFULNESS)),H(A(ANA (A",
  "(ABAAFILI,BAFILI),E(BEFILI,EBEEFILI,YBEYFILI),IBIFILI,LETTER (A(INU,LIFU),BAA,CHAVIYANI,D(A(AD",
  "HU,VIYANI),HAALU),FAAFU,G(AAFU,HAINU,NAVIYANI),H(AA,HAA),JAVIYANI,K(AAFU,HAA),L(AAMU,HAVIYANI)",
  ",MEEMU,N(AA,OONU),PAVIYANI,QAAFU,RAA,S(AADHU,EENU,H(AVIYANI,EENU)),T(AVIYANI,HAA(,LU),O,TAA),V",
  "AAVU,WAAVU,YAA,Z(A(A,VIYANI),O)),O(ABOAFILI,BOFILI,OBOOFILI),SUKUN,UBUFILI),I (C(HARACTER (ANG",
  "KHANKHU,BO BAIMAI,CHO CH(AN(,G),ING,OE),DO (CHADA,DEK),FO( FA(,N),NGMAN),HO (HIP,NOKHUK),K(HO(",
  " (KH(AI,ON,UAT,WAI),RAKHANG),MUT),O KAI),L(AKKHANGYAO,O (CHULA,LING),U),M(AI( (CHATTAWA,EK,HAN",
  "-AKAT,T(HO,RI)),TAIKHU,YAMOK),O MA),N(GO NGU,IKHAHIT,O N(EN,U)),O ANG,P(AIYANNOI,H(INTHU,O (PH",
  "(AN,UNG),SAMPHAO)),O PLA),R(O RUA,U),S(ARA (A(,A,E,I MAIM(ALAI,UAN),M),E,I(,I),O,U(,E(,E),U)),",
  "O (RUSI,S(ALA,O,UA))),T(H(ANTHAKHAT,O (NANGMONTHO,PHUTHAO,TH(A(HAN,N),ONG,UNG))),O (PATAK,TAO)",
  "),WO WAEN,Y(AMAKKAN,O Y(AK,ING))),URRENCY SYMBOL BAHT),DIGIT (EIGHT,F(IVE,OUR),NINE,ONE,S(EVEN",
  ",IX),T(HREE,WO),ZERO))),ER(E( (DOES NOT EXIST,EXISTS),FORE),MO(DYNAMIC,METER)),I(N( (GREEK CRO",
  "SS,S(ALTIRE,PACE)),KING FACE),RD PLACE MEDAL),O(NG SANDAL,UGHT BALLOON),REE( (BUTTON MOUSE,CON",
  "SECUTIVE EQUALS SIGNS,D(IMENSIONAL ANGLE,OT PUNCTUATION),L(EFTWARDS ARROWS,INES CONVERGING (LE",
  "FT,RIGHT)),NETWORKED COMPUTERS,POINTED BLACK STAR,R(AYS (ABOVE,BELOW,LEFT,RIGHT),IGHTWARDS ARR",
  "OWS),SPEECH BUBBLES),-(D (BOTTOM-LIGHTED RIGHTWARDS ARROWHEAD,LEFT-LIGHTED DOWNWARDS EQUILATER",
  "AL ARROWHEAD,RIGHT-LIGHTED UPWARDS EQUILATERAL ARROWHEAD,TOP-LIGHTED (LEFTWARDS EQUILATERAL AR",
  "ROWHEAD,RIGHTWARDS (ARROWHEAD,EQUILATERAL ARROWHEAD))),EM DASH,PER-EM SPACE)),U(MBS (DOWN SIGN",
  ",UP SIGN),NDER( CLOUD AND RAIN,STORM))),I(BETAN (ASTROLOGICAL SIGN (-KHYUD PA,S(DONG TSHUGS,GR",
  "A GCAN -CHAR RTAGS)),CANTILLATION SIGN (CANG TE-U,HEAVY BEAT,LIGHT BEAT,SBUB -CHAL),DIGIT (EIG",
  "HT,F(IVE,OUR),HALF (EIGHT,F(IVE,OUR),NINE,ONE,S(EVEN,IX),T(HREE,WO),ZERO),NINE,ONE,S(EVEN,IX),",
  "T(HREE,WO),ZERO),KU RU KHA(, BZHI MIG CAN),L(ETTER (-A,A,B(A,HA),C(A,HA),D(A,D(A,HA),HA,Z(A,HA",
  ")),FIXED-FORM RA,G(A,HA),HA,JA,K(A,HA,KA,SSA),LA,MA,N(A,GA,NA,YA),P(A,HA),R(A,RA),S(A,HA,SA),T",
  "(A,HA,S(A,HA),T(A,HA)),WA,YA,Z(A,HA)),OGOTYPE SIGN (CHAD RTAGS,LHAG RTAGS)),MARK (ANG KHANG GY",
  "(AS,ON),B(KA- SHOG (GI MGO RGYAN,YIG MGO),S(DUS RTAGS,K(A- SHOG GI MGO RGYAN,UR YIG MGO))),C(A",
  "RET (-DZUD RTAGS (BZHI MIG CAN,ME LONG CAN),YIG MGO PHUR SHAD MA),HE MGO,LOSING (BRDA RNYING Y",
  "IG MGO SGAB MA,YIG MGO SGAB MA)),DELIMITER TSHEG BSTAR,G(TER (TSHEG,YIG MGO (-UM (GTER TSHEG M",
  "A,RNAM BCAD MA),TRUNCATED A)),UG RTAGS GY(AS,ON)),HALANTA,IN(ITIAL (BRDA RNYING YIG MGO MDUN M",
  "A,YIG MGO MDUN MA),TERSYLLABIC TSHEG),LEADING MCHAN RTAGS,MNYAM YIG GI MGO RGYAN,N(GAS BZUNG (",
  "NYI ZLA,SGOR RTAGS),YIS (SHAD,TSHEG(, SHAD))),PALUTA,R(GYA GRAM SHAD,IN CHEN SPUNGS SHAD),S(BR",
  "UL SHAD,HAD),T(RAILING MCHAN RTAGS,S(A -PHRU,HEG SHAD)),YIG MGO TSHEG SHAD MA),S(IGN (GRU (CAN",
  " RGYINGS,MED RGYINGS),INVERTED MCHU CAN,LC(E TSA CAN,I RTAGS),M(AR TSHES,CHU CAN),NYI ZLA NAA ",
  "DA,R(DEL (DKAR (G(CIG,NYIS,SUM),RDEL NAG),NAG (G(CIG,NYIS,SUM),RDEL DKAR)),JES SU NGA RO,NAM B",
  "CAD),SNA LDAN,YA(NG RTAGS,R TSHES)),UBJOINED (LETTER (-A,A,B(A,HA),C(A,HA),D(A,D(A,HA),HA,Z(A,",
  "HA)),FIXED-FORM (RA,WA,YA),G(A,HA),HA,JA,K(A,HA,SSA),LA,MA,N(A,GA,NA,YA),P(A,HA),RA,S(A,HA,SA)",
  ",T(A,HA,S(A,HA),T(A,HA)),WA,YA,Z(A,HA)),SIGN (INVERTED MCHU CAN,LCE TSA CAN,MCHU CAN)),Y(LLABL",
  "E OM,MBOL (DRIL BU,NOR BU(, (BZHI -KHYIL,GSUM -KHYIL,NYIS -KHYIL)),P(ADMA GDAN,HUR PA),RDO RJE",
  "(, RGYA GRAM)))),VOWEL SIGN (AA,E(,E),I(,I),O(,O),REVERSED I(,I),U(,U),VOCALIC (L(,L),R(,R))))",
  ",CKET,E OVER INFINITY,FINAGH (CONSONANT JOINER,LETTER (A(HAGGAR YAZH,YER YAGH),BERBER ACADEMY ",
  "YA(H,J),T(AWELLEMET YAZ,UAREG YA(G(H,N),H,K(,H),NG,Q,ZH)),Y(A(,A,B(,H),CH,D(,D(,H),H),F,G(,H(,",
  "H)),H(,H),J,K(,H(,H)),L,M,N,P,Q,R(,R),S(,H,S),T(,H,T),V,W,Y,Z(,H,Z)),E(,Y),I,O,U)),MODIFIER LE",
  "TTER LABIALIZATION MARK,SEPARATOR MARK),G(ER(, FACE),HT TRIFOLIATE SNOWFLAKE),LDE(, (OPERATOR(",
  ", (ABOVE (LEFTWARDS ARROW,RIGHTWARDS ARROW),WITH (DOT ABOVE,RISING DOTS))),WITH (DOT (ABOVE,BE",
  "LOW),RING ABOVE))),ME(R CLOCK,S WITH (LEFT HALF BLACK,RIGHT HALF BLACK)),NY(, TWO DOTS OVER ON",
  "E DOT PUNCTUATION),R(ED FACE,HUTA (A(BBREVIATION SIGN,NJI),DIGIT (EIGHT,F(IVE,OUR),NINE,ONE,S(",
  "EVEN,IX),T(HREE,WO),ZERO),GVANG,LETTER (A(,A,I,U),B(A,HA),C(A,HA),D(A,D(A,HA),HA),E,G(A,HA),HA",
  ",I(,I),J(A,HA),K(A,HA),LA,MA,N(A,GA,NA,YA),O,P(A,HA),RA,S(A,HA,SA),T(A,HA,T(A,HA)),U(,U),V(A,O",
  "CALIC (L(,L),R(,R))),YA),OM,SIGN (A(NUSVARA,VAGRAHA),CANDRABINDU,NUKTA,VI(RAMA,SARGA)),VOWEL S",
  "IGN (A(A,I,U),E,I(,I),O,SHORT (E,O),U(,U),VOCALIC (L(,L),R(,R)))),ONIAN SIGN (CAPITAL ET,ET)))",
  ",O(ILET,KYO TOWER,MATO,NGUE,O(LBOX,TH(,BRUSH)),P (ARC (ANTICLOCKWISE ARROW(, WITH PLUS),CLOCKW",
  "ISE ARROW WITH MINUS),CURLY BRACKET,HA(LF (BLACK CIRCLE,INTEGRAL,LEFT PARENTHESIS,RIGHT PARENT",
  "HESIS,SECTION SIGN),T),LEFT (C(ORNER,ROP),HALF BRACKET),PARENTHESIS,RIGHT (C(ORNER,ROP),HALF B",
  "RACKET),SQUARE BRACKET,TORTOISE SHELL BRACKET,WITH UPWARDS ARROW ABOVE),RTOISE SHELL BRACKETED",
  " (CJK UNIFIED IDEOGRAPH-(4E(09,8C),5(2DD,B89),6(253,557,72C),7(0B9,6D7)),LATIN CAPITAL LETTER ",
  "S),T(AL RUNOUT,O (LETTER (A(,E),B(A,REATHY (AE,E(,O),I(,U))),CHA,DA,E(,O),GA,HA,I(,U),JA,KA,LA",
  ",MA,N(A,GA),O,PA,RA,SA,TA,U,WA,YA),SIGN RISING TONE))),R(A(C(KBALL,TOR),DE MARK SIGN,IN,M(, CA",
  "R),NS(PLUTO,VERSAL INTERSECTION)),I(ANG(LE( WITH (DOT ABOVE,ROUNDED CORNERS,SERIFS AT BOTTOM,U",
  "NDERBAR),-HEADED RIGHTWARDS ARROW),ULAR (BULLET,FLAG ON POST,RULER)),COLON,DENT EMBLEM,GRAM FO",
  "R (EARTH,FIRE,HEAVEN,LAKE,MOUNTAIN,THUNDER,W(ATER,IND)),PLE (COLON OPERATOR,DAGGER,HORIZONTAL ",
  "BAR WITH (DOUBLE VERTICAL STROKE,TRIPLE VERTICAL STROKE),INTEGRAL,NESTED (GREATER-THAN,LESS-TH",
  "AN),P(LUS,RIME),SOLIDUS BINARY RELATION,TILDE,VERTICAL BAR (BINARY RELATION,DELIMITER,RIGHT TU",
  "RNSTILE,WITH HORIZONTAL STROKE))),O(LL(,EYBUS),P(HY,ICAL (DRINK,FISH))),U(E(, LIGHT MOON ARTA)",
  ",MPET)),U(GRIK SIGN,LIP,MBLER GLASS,R(K(EY,ISH LIRA SIGN),NED (A(MPERSAND,NGLE),BLACK (PENTAGO",
  "N,SHOGI PIECE),C(APITAL F,OMMA),D(AGGER,IGIT T(HREE,WO)),GREEK SMALL LETTER IOTA,NO(RTH (EAST ",
  "POINTING LEAF,WEST POINTING LEAF),T SIGN),OK HAND SIGN,S(ANS-SERIF CAPITAL (G,L,Y),EMICOLON,MA",
  "LL F,OUTH (EAST POINTING LEAF,WEST POINTING LEAF)),WHITE SHOGI PIECE),TLE)),W(ELVE POINTED BLA",
  "CK STAR,ISTED RIGHTWARDS ARROWS,O( (ASTERISKS ALIGNED VERTICALLY,BUTTON MOUSE,CONSECUTIVE EQUA",
  "LS SIGNS,DOT( (LEADER,PUNCTUATION),S OVER ONE DOT PUNCTUATION),HEARTS,INTERSECTING LOGICAL (AN",
  "D,OR),JOINED SQUARES,LOGICAL (AND OPERATOR,OR OPERATOR),MEN HOLDING HANDS,SPEECH BUBBLES,WOMEN",
  " HOLDING HANDS),-EM DASH)))"]

/-- The names that start with U. -/
def startingWithU : List String := [
  "U(GARITIC (LETTER (A(IN,LPA),BETA,D(ELTA,HAL),G(AMLA,HAIN),HO(,TA),I,K(AF,HA),LAMDA,MEM,NUN,PU",
  ",QOPA,RASHA,S(A(DE,MKA),HIN,SU),T(ET,HANNA,O),U,WO,YOD,Z(ETA,U)),WORD DIVIDER),MBRELLA(, (ON G",
  "ROUND,WITH RAIN DROPS)),N(AMUSED FACE,CERTAINTY SIGN,D(ERTIE,O SYMBOL),I(CORN FACE,ON(, (ABOVE",
  " (BAR ABOVE INTERSECTION,INTERSECTION),BESIDE AND JOINED WITH UNION,WITH (LOGICAL OR,MINUS SIG",
  "N,OVERBAR))),T( SEPARATOR,ED SYMBOL),VERSAL RECYCLING SYMBOL),MARRIED PARTNERSHIP SYMBOL),P( (",
  "ARROW( THROUGH CIRCLE,HEAD(, (BETWEEN TWO HORIZONTAL BARS,IN A RECTANGLE BOX))),BARB (LEFT DOW",
  "N BARB (LEFT HARPOON,RIGHT HARPOON),RIGHT DOWN BARB (LEFT HARPOON,RIGHT HARPOON)),DOWN (ARROW(",
  ", WITH BASE),BLACK ARROW,DOUBLE ARROW,SANS-SERIF ARROW,TRIANGLE-HEADED ARROW,WHITE ARROW),FISH",
  " TAIL,RIGHT DIAGONAL ELLIPSIS,TACK(, WITH CIRCLE ABOVE)),-POINTING (AIRPLANE,MILITARY AIRPLANE",
  ",RED TRIANGLE,SMALL (AIRPLANE,RED TRIANGLE),TRIANGLE WITH (LEFT HALF BLACK,RIGHT HALF BLACK)),",
  "PER (AND (L(EFT AND LOWER TRIANGULAR THREE QUARTERS BLOCK,OWER (ONE EIGHTH BLOCK,TRIANGULAR HA",
  "LF BLOCK)),RIGHT AND LOWER TRIANGULAR THREE QUARTERS BLOCK),BLADE SCISSORS,FIVE EIGHTHS BLOCK,",
  "HALF (BLOCK(, AND LOWER HALF INVERSE MEDIUM SHADE),CIRCLE,INVERSE (MEDIUM SHADE AND LOWER HALF",
  " BLOCK,WHITE CIRCLE),MEDIUM SHADE),LEFT (BLOCK DIAGONAL (LOWER (CENTRE TO (LOWER MIDDLE RIGHT,",
  "UPPER (MIDDLE RIGHT,RIGHT)),LEFT TO (LOWER MIDDLE RIGHT,UPPER (CENTRE,MIDDLE RIGHT)),MIDDLE LE",
  "FT TO UPPER (CENTRE,MIDDLE RIGHT,RIGHT)),UPPER MIDDLE LEFT TO UPPER (CENTRE,RIGHT)),CORNER WIT",
  "H DOT,OR LOWER RIGHT CURLY BRACKET SECTION,QUADRANT CIRCULAR ARC,T(O LOWER RIGHT FILL,RIANG(LE",
  ",ULAR MEDIUM SHADE))),ONE (EIGHTH BLOCK,QUARTER BLOCK),RIGHT (BLOCK DIAGONAL (LOWER MIDDLE LEF",
  "T TO LOWER (CENTRE,RIGHT),UPPER (CENTRE TO (LOWER (MIDDLE RIGHT,RIGHT),UPPER MIDDLE RIGHT),LEF",
  "T TO (LOWER (CENTRE,MIDDLE RIGHT),UPPER MIDDLE RIGHT),MIDDLE LEFT TO LOWER (CENTRE,MIDDLE RIGH",
  "T,RIGHT))),DROP-SHADOWED WHITE SQUARE,OR LOWER LEFT CURLY BRACKET SECTION,PENCIL,QUADRANT CIRC",
  "ULAR ARC,SHADOWED WHITE (CIRCLE,SQUARE),T(O LOWER LEFT FILL,RIANG(LE,ULAR MEDIUM SHADE))),SEVE",
  "N EIGHTHS BLOCK,T(HREE (EIGHTHS BLOCK,QUARTERS BLOCK),RIANGULAR ONE QUARTER BLOCK)),SIDE-DOWN ",
  "FACE,WARDS (A(NCORA,RROW(, (AND RIGHT ONE EIGHTH BLOCK,FROM BAR,LEFTWARDS OF DOWNWARDS ARROW,T",
  "O BAR,WITH (DOUBLE STROKE,EQUILATERAL ARROWHEAD,HORIZONTAL STROKE,LARGE TRIANGLE ARROWHEAD,MED",
  "IUM TRIANGLE ARROWHEAD,NOTCHED TAIL,SMALL (EQUILATERAL ARROWHEAD,TRIANGLE ARROWHEAD),TIP (LEFT",
  "WARDS,RIGHTWARDS))))),BLACK (ARROW,CIRCLED WHITE ARROW),COMPRESSED ARROW,D(ASHED ARROW,OUBLE A",
  "RROW),FINGER-POST ARROW,H(ARPOON WITH BARB (LEFT( (BESIDE (DOWNWARDS HARPOON WITH BARB RIGHT,U",
  "PWARDS HARPOON WITH BARB RIGHT),FROM BAR,TO BAR),WARDS),RIGHT( (FROM BAR,TO BAR),WARDS)),EAVY ",
  "(ARROW,COMPRESSED ARROW)),PAIRED ARROWS,QUADRUPLE ARROW,ROCKET,S(ANS-SERIF ARROW,QUARED ARROW)",
  ",T(RI(ANGLE( ARROWHEAD,-HEADED (ARROW(, (LEFTWARDS OF DOWNWARDS TRIANGLE-HEADED ARROW,TO BAR,W",
  "ITH (BOLD SHAFT,DOUBLE HORIZONTAL STROKE,HEAVY SHAFT,LONG TIP (LEFTWARDS,RIGHTWARDS),MEDIUM SH",
  "AFT,NARROW SHAFT,VERY HEAVY SHAFT))),DASHED ARROW,PAIRED ARROWS)),PLE ARROW),WO( HEADED ARROW,",
  "-HEADED ARROW (FROM SMALL CIRCLE,WITH TRIANGLE ARROWHEADS))),WHITE (ARROW(, (FROM BAR(, WITH H",
  "ORIZONTAL BAR),ON PEDESTAL(, WITH (HORIZONTAL BAR,VERTICAL BAR)),WITHIN TRIANGLE ARROWHEAD)),D",
  "OUBLE ARROW(, ON PEDESTAL)))),RANUS,S)"]

/-- The names that start with V. -/
def startingWithV : List String := [
  "V(A(I (COMMA,DIGIT (EIGHT,F(IVE,OUR),NINE,ONE,S(EVEN,IX),T(HREE,WO),ZERO),FULL STOP,QUESTION M",
  "ARK,SY(LLABLE (A(,N),B(A,E(,E),H(A,E(,E),I,O(,O),U),I,O(,O),U),C(A,E(,E),I,O(,O),U),D(A,E(,E),",
  "H(A,E(,E),H(A,E(,E),I,O(,O),U),I,O(,O),U),I,O(,O),U),E(,E(,N),N),F(A,E(,E),I,O(,O),U),G(A,B(A,",
  "E(,E,N),I,O(,N,O),U),E(,E,N),I,O(,O),U),H(A(,N),E(,E,N),I(,N),O(,N,O),U(,N)),I(,N),J(A,E(,E),I",
  ",O(,O),U),K(A(,N),E(,E),I,O(,O),P(A(,N),E(,E,N),I,O(,O),U),U),L(A,E(,E,NGTHENER),I,O(,O),U),M(",
  "A,B(A,E(,E),I,O(,O),U),E(,E),GB(A,E(,E),I,O(,O),U),I,O(,O),U),N(A,D(A,E(,E),I,O(,LE (DO,FA,KA,",
  "MA,SOO),O),U),E(,E),G(,AN,EN,G(A,E(,E,N),I,O(,O),U),ON),I,J(A,E(,E),I,O(,O),U),O(,O),U,Y(A,E(,",
  "E),I,O(,O),U)),O(,N,O(,N)),P(A,E(,E),I,O(,O),U),R(A,E(,E),I,O(,O),U),S(A,E(,E),H(A,E(,E),I,O(,",
  "O),U),I,O(,O),U),T(A,E(,E),H(A,E(,E),I,O(,O),U),I,O(,O),U),U(,N),V(A,E(,E),I,O(,O),U),W(A(,N),",
  "E(,E(,N),N),I(,N),O(,N,O(,N)),U(,N)),Y(A,E(,E),I,O(,O),U),Z(A,E(,E),H(A,E(,E),I,O(,O),U),I,O(,",
  "O),U)),MBOL (BANG,D(ANG,O(-O,ONG)),F(AA,EENG),JONG,K(EENG,UNG),NII,T(AA,ING,ONG)))),MPIRE,RIAT",
  "ION SELECTOR-(1(,0(,0,1,2,3,4,5,6,7,8,9),1(,0,1,2,3,4,5,6,7,8,9),2(,0,1,2,3,4,5,6,7,8,9),3(,0,",
  "1,2,3,4,5,6,7,8,9),4(,0,1,2,3,4,5,6,7,8,9),5(,0,1,2,3,4,5,6,7,8,9),6(,0,1,2,3,4,5,6,7,8,9),7(,",
  "0,1,2,3,4,5,6,7,8,9),8(,0,1,2,3,4,5,6,7,8,9),9(,0,1,2,3,4,5,6,7,8,9)),2(,0(,0,1,2,3,4,5,6,7,8,",
  "9),1(,0,1,2,3,4,5,6,7,8,9),2(,0,1,2,3,4,5,6,7,8,9),3(,0,1,2,3,4,5,6,7,8,9),4(,0,1,2,3,4,5,6,7,",
  "8,9),5(,0,1,2,3,4,5,6),6,7,8,9),3(,0,1,2,3,4,5,6,7,8,9),4(,0,1,2,3,4,5,6,7,8,9),5(,0,1,2,3,4,5",
  ",6,7,8,9),6(,0,1,2,3,4,5,6,7,8,9),7(,0,1,2,3,4,5,6,7,8,9),8(,0,1,2,3,4,5,6,7,8,9),9(,0,1,2,3,4",
  ",5,6,7,8,9))),E(CTOR OR CROSS PRODUCT,DIC (SIGN (A(NUSVARA (ANTARGOMUKHA,BAHIRGOMUKHA,UBHAYATO",
  " MUKHA,VAMAGOMUKHA(, WITH TAIL)),RDHAVISARGA,TIKRAMA),DOUBLE ANUSVARA ANTARGOMUKHA,HEXIFORM LO",
  "NG ANUSVARA,JIHVAMULIYA,LONG ANUSVARA,NIHSHVASA,R(EVERSED VISARGA (ANUDATTA,UDATTA),OTATED ARD",
  "HAVISARGA,THANG LONG ANUSVARA),TIRYAK,UPADHMANIYA,VISARGA (ANUDATTA(, WITH TAIL),SVARITA,UDATT",
  "A(, WITH TAIL)),YAJURVEDIC MIDLINE SVARITA),TONE (ATHARVAVEDIC INDEPENDENT SVARITA,CANDRA (ABO",
  "VE,BELOW),DO(T BELOW,UBLE (RING ABOVE,SVARITA)),KA(RSHANA,THAKA ANUDATTA),PRENKHA,RI(GVEDIC KA",
  "SHMIRI INDEPENDENT SVARITA,NG ABOVE),SHARA,T(HREE DOTS BELOW,RIPLE SVARITA,WO DOTS BELOW),YAJU",
  "RVEDIC (AGGRAVATED INDEPENDENT SVARITA,INDEPENDENT SVARITA,KATHAKA INDEPENDENT SVARITA(, SCHRO",
  "EDER)))),R(SICLE,TICAL (BAR (BESIDE RIGHT TRIANGLE,DOUBLE LEFT TURNSTILE,TRIPLE RIGHT TURNSTIL",
  "E,WITH HORIZONTAL STROKE),ELLIPSIS,FOUR DOTS,IDEOGRAPHIC ITERATION MARK,KANA REPEAT (MARK(, (L",
  "OWER HALF,UPPER HALF)),WITH VOICED SOUND MARK(, UPPER HALF)),LINE(, (EXTENSION,WITH (CIRCLE (A",
  "BOVE,BELOW),MIDDLE DOT))),MALE WITH STROKE SIGN,ONE EIGHTH BLOCK-(2,3,4,5,6,7),SIX DOTS,T(AB( ",
  "KEY,ULATION(, SET)),ILDE,RAFFIC LIGHT),ZIGZAG LINE),Y (BOLD GREEK CROSS,HEAVY (EIGHT (POINTED ",
  "BLACK STAR,SPOKED ASTERISK),FIVE SPOKED ASTERISK,GREEK CROSS,REVERSE SOLIDUS,S(ALTIRE,IX SPOKE",
  "D ASTERISK,OLIDUS),WHITE (CIRCLE,SQUARE)),MUCH (GREATER-THAN,LESS-THAN))),STA),I(BRATION MODE,",
  "CTORY HAND,DEO( (CAMERA,GAME),CASSETTE),E(TNAMESE ALTERNATE READING MARK (CA,NHAY),WDATA SQUAR",
  "E),OLIN,RGO,THKUQI (CAPITAL LETTER (A,B(BE,E),C(E,HE),D(E,HE),E(,I),FE,GA,H(A,HA),I(,JE),JE,KA",
  ",L(A,LA),ME,N(E,JE),O,PE,QA,RE,S(E,HE),T(E,HE),U,VE,XE,Y,ZE),SMALL LETTER (A,B(BE,E),C(E,HE),D",
  "(E,HE),E(,I),FE,GA,H(A,HA),I(,JE),JE,KA,L(A,LA),ME,N(E,JE),O,PE,QA,RE,S(E,HE),T(E,HE),U,VE,XE,",
  "Y,ZE))),O(IDED GREEK CROSS,L(CANO,LEYBALL,UME INTEGRAL)),S(1(,0(,0,1,2,3,4,5,6,7,8,9),1(,0,1,2",
  ",3,4,5,6,7,8,9),2(,0,1,2,3,4,5,6,7,8,9),3(,0,1,2,3,4,5,6,7,8,9),4(,0,1,2,3,4,5,6,7,8,9),5(,0,1",
  ",2,3,4,5,6,7,8,9),6(,0,1,2,3,4,5,6,7,8,9),7(,0,1,2,3,4,5,6,7,8,9),8(,0,1,2,3,4,5,6,7,8,9),9(,0",
  ",1,2,3,4,5,6,7,8,9)),2(,0(,0,1,2,3,4,5,6,7,8,9),1(,0,1,2,3,4,5,6,7,8,9),2(,0,1,2,3,4,5,6,7,8,9",
  "),3(,0,1,2,3,4,5,6,7,8,9),4(,0,1,2,3,4,5,6,7,8,9),5(,0,1,2,3,4,5,6),6,7,8,9),3(,0,1,2,3,4,5,6,",
  "7,8,9),4(,0,1,2,3,4,5,6,7,8,9),5(,0,1,2,3,4,5,6,7,8,9),6(,0,1,2,3,4,5,6,7,8,9),7(,0,1,2,3,4,5,",
  "6,7,8,9),8(,0,1,2,3,4,5,6,7,8,9),9(,0,1,2,3,4,5,6,7,8,9)),T(,S),UL(CANUS,GAR FRACTION (F(IVE (",
  "EIGHTHS,SIXTHS),OUR FIFTHS),ONE (EIGHTH,FIFTH,HALF,NINTH,QUARTER,S(EVENTH,IXTH),T(ENTH,HIRD)),",
  "SEVEN EIGHTHS,T(HREE (EIGHTHS,FIFTHS,QUARTERS),WO (FIFTHS,THIRDS)),ZERO THIRDS)))"]

/-- The names that start with W. -/
def startingWithW : List String := [
  "W(A(FFLE,N(CHO (DIGIT (EIGHT,F(IVE,OUR),NINE,ONE,S(EVEN,IX),T(HREE,WO),ZERO),LETTER (A(,A(,N(,",
  "G)),NG,U),BA,CA,DA,E(,N),FA,GA,HA,I(,NG),JA,K(A,HA),L(A,LHA),MA,N(A,GA,YA),O(,N(,G)),P(A,HA),R",
  "A,S(A,HA),T(A,HA,RA,SA),U(,EN),VA,WA,Y(A,IH),ZA),NGUN SIGN,TONE (KOI(,NI),TUP(,NI))),ING (CRES",
  "CENT MOON SYMBOL,GIBBOUS MOON SYMBOL)),R(ANG CITI (CAPITAL LETTER (A(,M,NG,T),BU,DA,E(,N(N,Y))",
  ",GA,H(AR,IYO,O(LO,RR)),II,KO,N(GAA,UNG),O(,DD),PU,S(II,SUU),TTE,U(C,U),VIYO,WI,Y(A,O,U(,J))),D",
  "IGIT (EIGHT,F(IVE,OUR),NINE,ONE,S(EVEN,IX),T(HREE,WO),ZERO),NUMBER (EIGHTY,F(IFTY,ORTY),NINETY",
  ",S(EVENTY,IXTY),T(EN,HIRTY,WENTY)),OM,SMALL LETTER (A(,M,NG,T),BU,DA,E(,N(N,Y)),GA,H(AR,IYO,O(",
  "LO,RR)),II,KO,N(GAA,UNG),O(,DD),PU,S(II,SUU),TTE,U(C,U),VIYO,WI,Y(A,O,U(,J)))),NING SIGN),STEB",
  "ASKET,T(CH,ER( (BUFFALO,CLOSET,POLO,WAVE),MELON)),V(E (ARROW POINTING DIRECTLY (LEFT,RIGHT),DA",
  "SH),ING (BLACK FLAG,HAND SIGN,WHITE FLAG),Y (DASH,L(INE,OW LINE),OVERLINE)),XING (CRESCENT MOO",
  "N SYMBOL,GIBBOUS MOON SYMBOL)),E(ARY (CAT FACE,FACE),D(DING,GE-TAILED RIGHTWARDS ARROW),I(ERST",
  "RASS ELLIPTIC FUNCTION,GHT LIFTER),ST SYRIAC CROSS),H(ALE,EEL(, OF DHARMA,CHAIR SYMBOL),ITE( (",
  "ARROW SHAFT WIDTH (ONE,TWO THIRDS),BULLET,C(HESS (BISHOP(, ROTATED (NINETY DEGREES,TWO HUNDRED",
  " SEVENTY DEGREES)),EQUIHOPPER(, ROTATED NINETY DEGREES),K(ING(, ROTATED (NINETY DEGREES,TWO HU",
  "NDRED SEVENTY DEGREES)),NIGHT(, ROTATED (FORTY-FIVE DEGREES,NINETY DEGREES,ONE HUNDRED THIRTY-",
  "FIVE DEGREES,T(HREE HUNDRED FIFTEEN DEGREES,WO HUNDRED (SEVENTY DEGREES,TWENTY-FIVE DEGREES)))",
  ",-(BISHOP,QUEEN,ROOK))),PAWN(, ROTATED (NINETY DEGREES,TWO HUNDRED SEVENTY DEGREES)),QUEEN(, R",
  "OTATED (NINETY DEGREES,TWO HUNDRED SEVENTY DEGREES)),ROOK(, ROTATED (NINETY DEGREES,TWO HUNDRE",
  "D SEVENTY DEGREES)),TURNED (BISHOP,K(ING,NIGHT),PAWN,QUEEN,ROOK)),IRCLE(, (CONTAINING BLACK SM",
  "ALL CIRCLE,WITH (DO(T RIGHT,WN ARROW),LOWER (LEFT QUADRANT,RIGHT QUADRANT),TWO DOTS,UPPER (LEF",
  "T QUADRANT,RIGHT QUADRANT)))),LUB SUIT,ONCAVE-SIDED DIAMOND(, WITH (LEFTWARDS TICK,RIGHTWARDS ",
  "TICK))),D(IAMOND(, (CONTAINING BLACK (MEDIUM DIAMOND,SMALL DIAMOND,VERY SMALL DIAMOND),IN SQUA",
  "RE,SUIT,WITH CENTRED DOT)),OWN( POINTING (BACKHAND INDEX,INDEX,LEFT HAND INDEX),-POINTING (SMA",
  "LL TRIANGLE,TRIANGLE)),RAUGHTS (KING,MAN)),EXCLAMATION MARK ORNAMENT,F(L(AG(, WITH HORIZONTAL ",
  "MIDDLE BLACK STRIPE),O(RETTE,WER)),OUR POINTED (CUSP,STAR),ROWNING FACE),H(ARD SHELL FLOPPY DI",
  "SK,E(A(RT(, SUIT),VY (CHECK MARK,SALTIRE WITH ROUNDED CORNERS)),XAGON),O(RIZONTAL ELLIPSE,URGL",
  "ASS)),L(A(RGE SQUARE,TIN CROSS),EFT( (LANE MERGE,POINTING (BACKHAND INDEX,INDEX)),-POINTING (P",
  "OINTER,SMALL TRIANGLE,TRIANGLE)),OZENGE CONTAINING BLACK SMALL LOZENGE),M(EDIUM (DIAMOND,LOZEN",
  "GE,S(MALL SQUARE,QUARE,TAR)),OON SELENA),NIB,P(ARALLELOGRAM,EN(NANT,TAGON)),QUESTION MARK ORNA",
  "MENT,R(ECTANGLE,IGHT( POINTING (BACKHAND INDEX,INDEX),-POINTING (P(ENTAGON,OINTER),SMALL TRIAN",
  "GLE,TRIANGLE))),S(CISSORS,ESAME DOT,HOGI PIECE,M(ALL (LOZENGE,S(QUARE,TAR)),ILING FACE),PADE S",
  "UIT,QUARE(, (BUTTON,CONTAINING BLACK (MEDIUM SQUARE,SMALL SQUARE,VERY SMALL SQUARE),WITH (CENT",
  "RE VERTICAL LINE,L(EFTWARDS TICK,OWER (LEFT QUADRANT,RIGHT QUADRANT)),R(IGHTWARDS TICK,OUNDED ",
  "CORNERS),UPPER (LEFT QUADRANT,RIGHT QUADRANT),VERTICAL BISECTING LINE))),TAR,UN(, (BEHIND CLOU",
  "D(, WITH RAIN),WITH (RAYS,SMALL CLOUD)))),T(ELEPHONE,OUCHTONE TELEPHONE,R(APEZIUM,IANGLE CONTA",
  "INING SMALL WHITE TRIANGLE),WO-WAY LEFT WAY TRAFFIC),UP( POINTING (BACKHAND INDEX,INDEX),-POIN",
  "TING (CHEVRON,SMALL TRIANGLE,TRIANGLE(, WITH DOT))),VER(TICAL (BAR,ELLIPSE,RECTANGLE),Y SMALL ",
  "SQUARE)),-FEATHERED RIGHTWARDS ARROW)),I(DE-HEADED (DOWNWARDS (BARB ARROW,HEAVY BARB ARROW,LIG",
  "HT BARB ARROW,MEDIUM BARB ARROW,VERY HEAVY BARB ARROW),LEFTWARDS (BARB ARROW,HEAVY BARB ARROW,",
  "LIGHT BARB ARROW,MEDIUM BARB ARROW,VERY HEAVY BARB ARROW),NORTH (EAST (BARB ARROW,HEAVY BARB A",
  "RROW,LIGHT BARB ARROW,MEDIUM BARB ARROW,VERY HEAVY BARB ARROW),WEST (BARB ARROW,HEAVY BARB ARR",
  "OW,LIGHT BARB ARROW,MEDIUM BARB ARROW,VERY HEAVY BARB ARROW)),RIGHTWARDS (BARB ARROW,HEAVY BAR",
  "B ARROW,LIGHT BARB ARROW,MEDIUM BARB ARROW,VERY HEAVY BARB ARROW),SOUTH (EAST (BARB ARROW,HEAV",
  "Y BARB ARROW,LIGHT BARB ARROW,MEDIUM BARB ARROW,VERY HEAVY BARB ARROW),WEST (BARB ARROW,HEAVY ",
  "BARB ARROW,LIGHT BARB ARROW,MEDIUM BARB ARROW,VERY HEAVY BARB ARROW)),UPWARDS (BARB ARROW,HEAV",
  "Y BARB ARROW,LIGHT BARB ARROW,MEDIUM BARB ARROW,VERY HEAVY BARB ARROW)),GGLY VERTICAL LINE,LTE",
  "D FLOWER,N(D( (BLOWING FACE,CHIME),OW),E GLASS,KING FACE),RED KEYBOARD),J,O(LF FACE,M(AN(, WIT",
  "H BUNNY EARS,S (BOOTS,CLOTHES,HAT,SANDAL)),ENS SYMBOL),N SIGN,OD,R(D (JOINER,SEPARATOR MIDDLE ",
  "DOT),LD MAP,M,RIED FACE)),R(APPED PRESENT,E(ATH PRODUCT,NCH,STLERS),ITING HAND))"]

/-- The names that start with X. -/
def startingWithX : List String := [
  "X( IN A RECTANGLE BOX,-RAY,IANGQI (BLACK (C(ANNON,HARIOT),ELEPHANT,GENERAL,HORSE,MANDARIN,SOLD",
  "IER),RED (C(ANNON,HARIOT),ELEPHANT,GENERAL,HORSE,MANDARIN,SOLDIER)),OR)"]

/-- The names that start with Y. -/
def startingWithY : List String := [
  "Y(AWNING FACE,E(LLOW HEART,N SIGN,ZIDI (COMBINING (HAMZA MARK,MADDA MARK),HYPHENATION MARK,LET",
  "TER (BE,C(H(HIM,IM),IM),DA(D,L),E(LIF,T,W,YN),FA,GAF,H(AY,HA),JA,K(AF,HAF),LAM(, WITH DOT ABOV",
  "E),MIM,NUN,OW,P(E,HE),QAF,R(A,HA),S(AD,E,HIN,IN),T(A,HE),UM,VA(, ALTERNATE FORM),WAW,X(A,HEYN)",
  ",YOT(, WITH CIRCUMFLEX ABOVE),Z(A(,L),E)))),I( (RADICAL (B(BUT,UR),C(HE,IP,UOP,Y(,P,T)),D(DUR,",
  "U),G(A,EP,G(OP,UO),OT),H(MO,X(IT,OP,UO)),J(J(IE,UT,Y),O),K(E,IT),L(I(,E),YR),M(I,OP),N(BIE,Y(I",
  "P,OP),ZUP),OP,P(UT,YT),QOT,S(H(AT,OP,UR,Y),SI),T(AT,U),V(EP,UR),WO,Y(IT,O),Z(A,OT,U(P,R),ZIET)",
  "),SYLLABLE (A(,P,T,X),B(A(,P,T,X),B(A(,P,T,X),E(,P,X),I(,E(,P,T,X),P,T,X),O(,P,T,X),U(,O(,P,X)",
  ",P,R(,X),T,X),Y(,P,T,X)),E(,P,X),I(,E(,P,T,X),P,T,X),O(,P,T,X),U(,O(,P,X),P,R(,X),T,X),Y(,P,R(",
  ",X),T,X)),C(A(,P,T,X),E(,P,X),H(A(,P,T,X),E(,P,T,X),O(,P,T,X),U(,O(,P,T,X),P,R(,X),X),Y(,P,R(,",
  "X),T,X)),I(,E(,P,T,X),P,T,X),O(,P,T,X),U(,O(,P,X),P,R(,X),T,X),Y(,P,R(,X),T,X)),D(A(,P,T,X),D(",
  "A(,P,T,X),E(,P,X),I(,E(,P,X),P,T,X),O(,P,T,X),U(,O(,P,X),P,R(,X),T,X)),E(,P,X),I(,E(,P,X),P,T,",
  "X),O(,P,T,X),U(,O(,X),P,R(,X),T,X)),E(,X),F(A(,P,T,X),I(,P,T,X),O(,P,X),U(,P,R(,X),T,X),Y(,P,T",
  ",X)),G(A(,P,T,X),E(,P,T,X),G(A(,P,T,X),E(,P,T,X),I(,E(,P,X),T,X),O(,P,T,X),U(,O(,P,T,X),P,R(,X",
  "),T,X)),I(,E(,P,T,X),P,T,X),O(,P,T,X),U(,O(,P,T,X),P,R(,X),T,X)),H(A(,P,T,X),E(,P,X),I(E(,X),T",
  "),L(A(,P,T,X),E(,P,X),I(,E(,P,X),P,T,X),O(,P,X),U(,O(,P,X),P,R(,X),T,X),Y(,P,R(,X),T,X)),M(A(,",
  "P,T,X),I(,E(,P,X),P,T,X),O(,P,T,X),U(,O(,P,X),P,R(,X),T,X),Y(,P,R(,X),X)),N(A(,P,T,X),E(,P,X),",
  "I(,E(,P,T,X),P,T,X),O(P,T,X),U(O(,X),T)),O(,P,T,X),UO(,P,T,X),X(A(,P,T,X),E(,P,X),I(,E(,P,T,X)",
  ",P,T,X),O(,P,T,X),UO(,P,T,X))),I(,E(,P,T,X),P,T(,ERATION MARK),X),J(I(,E(,P,T,X),P,T,X),J(I(,E",
  "(,P,T,X),P,T,X),O(,P,T,X),U(,O(,P,X),P,R(,X),T,X),Y(,P,T,X)),O(,P,T,X),U(,O(,P,T,X),P,R(,X),T,",
  "X),Y(,P,R(,X),T,X)),K(A(,P,T,X),E(,P,T,X),I(,E(,P,X),P,T,X),O(,P,T,X),U(,O(,P,X),P,R(,X),T,X))",
  ",L(A(,P,T,X),E(,P,X),I(,E(,P,T,X),P,T,X),O(,P,T,X),U(,O(,P,T,X),P,R(,X),T,X),Y(,P,R(,X),T,X)),",
  "M(A(,P,T,X),E(,X),G(A(,P,T,X),E(,P,X),IE(,X),O(,P,T,X),U(,O(,P,X),P,R(,X),T,X)),I(,E(,P,X),P,T",
  ",X),O(,P,T,X),U(,O(,P,T,X),P,R(,X),T,X),Y(,P,T,X)),N(A(,P,X),B(A(,P,T,X),I(,E(,P,X),P,T,X),O(,",
  "P,T,X),U(,P,R(,X),T,X),Y(,P,R(,X),T,X)),D(A(,P,T,X),E(,P,X),I(,E(,X),P,T,X),O(,P,T,X),U(,P,R(,",
  "X),T,X)),E(,P,X),G(A(,P,T,X),E(,P,X),IE(,P,X),O(,P,T,X),UO(,T,X)),I(,E(,P,X),P,T,X),J(I(,E(,P,",
  "T,X),P,T,X),O(,P,T,X),U(,O(,X),P,R(,X),X),Y(,P,R(,X),T,X)),O(,P,T,X),R(A(,P,T,X),E(,P,T,X),O(,",
  "P,X),U(,P,R(,X),T,X),Y(,P,R(,X),T,X)),U(,O(,P,X),P,R(,X),T,X),Y(I(,E(,P,T,X),P,T,X),O(,P,T,X),",
  "U(,O(,P,X),P,T,X)),Z(A(,P,T,X),E(,X),I(,E(,P,X),P,T,X),O(P,X),U(,O(,X),P,R(,X),X),Y(,P,R(,X),T",
  ",X))),O(,P,T,X),P(A(,P,T,X),I(,E(,P,X),P,T,X),O(,P,T,X),U(,O(,P,X),P,R(,X),T,X),Y(,P,R(,X),T,X",
  ")),Q(I(,E(,P,T,X),P,T,X),O(,P,T,X),U(,O(,P,T,X),P,R(,X),T,X),Y(,P,R(,X),T,X)),R(A(,P,T,X),E(,P",
  ",X),O(,P,T,X),R(A(,X),E(,P,T,X),O(,P,T,X),U(,O(,X),P,R(,X),T,X),Y(,P,R(,X),T,X)),U(,O(,P,X),P,",
  "R(,X),T,X),Y(,P,R(,X),T,X)),S(A(,P,T,X),E(,P,X),H(A(,P,T,X),E(,P,T,X),O(,P,T,X),U(,O(,P,X),P,R",
  "(,X),T,X),Y(,P,R(,X),T,X)),I(,E(,P,X),P,T,X),O(,P,T,X),S(A(,P,T,X),E(,P,X),I(,E(,P,X),P,T,X),O",
  "(,P,T,X),U(,P,T,X),Y(,P,R(,X),T,X)),U(,O(,P,X),P,R(,X),T,X),Y(,P,R(,X),T,X)),T(A(,P,T,X),E(,P,",
  "X),I(,E(,P,X),P,T,X),O(,P,T,X),U(,O(,P,T,X),P,R(,X),T,X)),UO(,P,X),V(A(,P,T,X),E(P,X),I(,E(,P,",
  "T,X),P,T,X),O(,P,T,X),U(,P,R(,X),T,X),Y(,P,R(,X),T,X)),W(A(,P,T,X),E(,P,X),O(,P,X),U(,O(,P,X))",
  "),X(I(,E(,P,T,X),P,T,X),O(,P,T,X),UO(,X),Y(,P,R(,X),T,X)),Y(I(,E(,P,T,X),P,T,X),O(,P,T,X),U(,O",
  "(,P,T,X),P,R(,X),T,X),Y(,P,R(,X),T,X)),Z(A(,P,T,X),E(,P,X),H(A(,P,T,X),E(,P,T,X),O(,P,T,X),U(,",
  "O(,P,X),P,R(,X),T,X),Y(,P,R(,X),T,X)),I(,E(,P,X),P,T,X),O(,P,T,X),U(,O(,P,X),P,R(,X),T,X),Y(,P",
  ",R(,X),T,X),Z(A(,P,T,X),E(,P,X),I(,E(,P,T,X),P,T,X),O(,P,X),U(,P,R(,X),X),Y(,P,R(,X),T,X))))),",
  "N YANG),O-YO)"]

/-- The names that start with Z. -/
def startingWithZ : List String := [
  "Z( NOTATION (BAG MEMBERSHIP,DOMAIN ANTIRESTRICTION,LEFT (BINDING BRACKET,IMAGE BRACKET),R(ANGE",
  " ANTIRESTRICTION,ELATIONAL COMPOSITION,IGHT (BINDING BRACKET,IMAGE BRACKET)),S(CHEMA (COMPOSIT",
  "ION,P(IPING,ROJECTION)),POT),TYPE COLON),ANABAZAR SQUARE (CL(OSING (DOUBLE-LINED HEAD MARK,HEA",
  "D MARK),USTER-(FINAL LETTER (LA,RA,VA,YA),INITIAL LETTER RA)),FINAL CONSONANT MARK,INITIAL (DO",
  "UBLE-LINED HEAD MARK,HEAD MARK),LETTER (-A,A,B(A,HA),C(A,HA),D(A,D(A,HA),HA,Z(A,HA)),G(A,HA),H",
  "A,JA,K(A,HA,SSA),LA,MA,N(A,GA,NA,YA),P(A,HA),RA,S(A,HA,SA),T(A,HA,S(A,HA),T(A,HA)),VA,YA,Z(A,H",
  "A)),MARK (DOUBLE SHAD,LONG TSHEG,SHAD,TSHEG),S(IGN (ANUSVARA,CANDRA( WITH ORNAMENT,BINDU(, WIT",
  "H ORNAMENT)),VI(RAMA,SARGA)),UBJOINER),VOWEL (LENGTH MARK,SIGN (A(I,U),E,I,O(,E),REVERSED I,U(",
  ",E)))),E(BRA FACE,RO WIDTH (JOINER,NO(-BREAK SPACE,N-JOINER),SPACE),US),IPPER-MOUTH FACE,NAMEN",
  "NY (COMBINING (ATTACHING VERTICAL OMET,LOWER TONAL RANGE INDICATOR,MARK (BORZAYA,C(HASHKA(, PO",
  "LNAYA),URVED OMET),D(EMESTVENNY ZADERZHKA,VOETOCHIE),GORAZDO (NIZKO (ON (LEFT,RIGHT),S KRYZHEM",
  " ON (LEFT,RIGHT)),VYSOKO),K(ACHKA,RYZH(, ON LEFT),UPNAYA),LOMKA,MALO POVYSHE (ON (LEFT,RIGHT),",
  "S( K(HOKHLOM ON (LEFT,RIGHT),RYZHEM),TRANNO)),NIZKO (ON (LEFT,RIGHT),S KRYZHEM ON (LEFT,RIGHT)",
  "),O(BLACHKO,N,TSECHKA),PO(D(CHASHIE(, WITH VERTICAL STROKE),VERTKA),VYSHE (ON (LEFT,RIGHT),S( ",
  "K(HOKHLOM ON (LEFT,RIGHT),RYZHEM),TRANNO))),RA(VNO,ZSEKA),S(KOBA,OROCHYA NOZHKA,REDNE ON (LEFT",
  ",RIGHT),TRANNO MALO POVYSHE),T(IKHAYA,OCHKA,SATA (ON (LEFT,RIGHT),S KRYZHEM)),UDARKA,VYSOKO (O",
  "N (LEFT,RIGHT),S K(HOKHLOM ON (LEFT,RIGHT),RYZHEM)),Z(ADERZHKA,E(LO,VOK))),TONAL RANGE MARK (M",
  "RACHNO,SVETLO,TRESVETLO)),NEUME (CH(ASHKA,ELYUSTKA),D(E(MESTVENNY KLYUCH,RBITSA),OUBLE ZAPYATA",
  "YA,UDA,VA V CHELNU),FITA,GOLUBCHIK (BORZY,MRACHNY,SVETLY,T(IKHY,RESVETLY)),K(HAMILO,LYUCH,OBYL",
  "A,RY(UK(, TIKHY),ZH),UFISMA),MECHIK(, (KLYUCHE(NEPOSTOYANNY,POVODNY,VOY),POVODNY)),NEMKA,O(BLA",
  "KO,SOKA(, (K(LYUCHEVAYA (NEPOSTOYANNAYA,SVETLAYA),RYUKOVAYA SVETLAYA),SVETLAYA,TRESVETLAYA))),",
  "P(A(LKA,RAKLIT,UK),EREVODKA(, NEPOSTOYANNAYA),O(DCHASHIE,LKULIZMY)),R(EVERSED CHELYUSTKA,OG),S",
  "(KAMEYTSA (DVOECHELNAYA (KLYUCHEVAYA,NEPOSTOYANNAYA,PROSTAYA,SVETLAYA),KLYUCHE(NEPOSTOYANNAYA,",
  "VAYA (SVETLAYA,TIKHAYA)),MRACHNAYA,SVETLAYA,T(IKHAYA,RESVETLAYA)),LOZHITIE(, (S (KRYZHEM,ZAPYA",
  "TOY),ZAKRYTOE)),T(ATYA(, (NEPOSTOYANNAYA,S (DVUMYA ZAPYATYMI,KRYZHEM(, I ZAPYATOY),ROGOM,ZAPYA",
  "TOY(, I (KRYZHEM,PODCHASHIEM))),ZAKRYTAYA(, S ZAPYATOY))),OPITSA(, (S OCHKOM,WITH SOROCHYA NOZ",
  "HKA)),RELA (DVOECHELN(AYA(, KLYUCHEVAYA),O(KRYZHEVAYA,POVODNAYA(, KLYUCHEVAYA))),GROM(NAYA(, W",
  "ITH SINGLE ZAPYATAYA),O(KRYZHEVAYA(, POVODNAYA),POVODNAYA(, WITH (DOUBLE ZAPYATAYA,SINGLE ZAPY",
  "ATAYA)))),K(LYUCHE(NEPOSTOYANNAYA,POVODNAYA),RY(UKOVAYA(, (GROM(NAYA(, WITH SINGLE ZAPYATAYA),",
  "O(KRYZHEVAYA(, POVODNAYA),POVODNAYA(, WITH (DOUBLE ZAPYATAYA,SINGLE ZAPYATAYA)))),POVODNAYA,TR",
  "YASKA)),ZHEVAYA)),MRACHNOTIKHAYA,NEPOSTOYANNAYA,P(O(LUPOVODNAYA,VODNAYA),ROSTAYA),T(IKHAYA PUT",
  "NAYA,RYASO(GLASNAYA,POVODNAYA,STRELNAYA))))),VRAKHIYA (KLYUCHEVAYA (MRACHNAYA,PROSTAYA,SVETLAY",
  "A,TRESVETLAYA),MRACHNAYA,PROSTAYA,SVETLAYA,TRESVETLAYA),Z(A(NOZHEK,PYATAYA),MEYTSA)),PRIZNAK M",
  "ODIFIER (DIRECTION FLIP,KRYZH,LEVEL-(2,3),ROG)),OMBIE,W(J,N(BSP,J),SP))"]

end MetricAudit.Text.CharacterNames
