import ResourceQuery.Text.NameRun

/-!
Names of the characters from 0020 to 058F: Latin, Greek, Cyrillic and Armenian
letters, with the marks that modify them.
-/

namespace ResourceQuery.Text

def europeanNames : List NameRun :=
  [.listed 0x20 "" [
    "SPACE,EXCLAMATION MARK,QUOTATION MARK,NUMBER SIGN,DOLLAR SIGN,PERCENT SIGN,AMPERSAND",
    "APOSTROPHE,LEFT PARENTHESIS,RIGHT PARENTHESIS,ASTERISK,PLUS SIGN,COMMA,HYPHEN-MINUS",
    "FULL STOP,SOLIDUS"],
   .listed 0x30 "DIGIT " digits,
   .listed 0x3A "" [
    "COLON,SEMICOLON,LESS-THAN SIGN,EQUALS SIGN,GREATER-THAN SIGN,QUESTION MARK,COMMERCIAL AT"],
   .listed 0x41 "LATIN CAPITAL LETTER " alphabet,
   .listed 0x5B "" [
    "LEFT SQUARE BRACKET,REVERSE SOLIDUS,RIGHT SQUARE BRACKET,CIRCUMFLEX ACCENT,LOW LINE",
    "GRAVE ACCENT"],
   .listed 0x61 "LATIN SMALL LETTER " alphabet,
   .listed 0x7B "" ["LEFT CURLY BRACKET,VERTICAL LINE,RIGHT CURLY BRACKET,TILDE"],
   .listed 0xA0 "" [
    "NO-BREAK SPACE,INVERTED EXCLAMATION MARK,CENT SIGN,POUND SIGN,CURRENCY SIGN,YEN SIGN",
    "BROKEN BAR,SECTION SIGN,DIAERESIS,COPYRIGHT SIGN,FEMININE ORDINAL INDICATOR",
    "LEFT-POINTING DOUBLE ANGLE QUOTATION MARK,NOT SIGN,SOFT HYPHEN,REGISTERED SIGN,MACRON",
    "DEGREE SIGN,PLUS-MINUS SIGN,SUPERSCRIPT TWO,SUPERSCRIPT THREE,ACUTE ACCENT,MICRO SIGN",
    "PILCROW SIGN,MIDDLE DOT,CEDILLA,SUPERSCRIPT ONE,MASCULINE ORDINAL INDICATOR",
    "RIGHT-POINTING DOUBLE ANGLE QUOTATION MARK,VULGAR FRACTION ONE QUARTER",
    "VULGAR FRACTION ONE HALF,VULGAR FRACTION THREE QUARTERS,INVERTED QUESTION MARK"],
   .listed 0xC0 "LATIN CAPITAL LETTER " [
    "A WITH GRAVE,A WITH ACUTE,A WITH CIRCUMFLEX,A WITH TILDE,A WITH DIAERESIS",
    "A WITH RING ABOVE,AE,C WITH CEDILLA,E WITH GRAVE,E WITH ACUTE,E WITH CIRCUMFLEX",
    "E WITH DIAERESIS,I WITH GRAVE,I WITH ACUTE,I WITH CIRCUMFLEX,I WITH DIAERESIS,ETH",
    "N WITH TILDE,O WITH GRAVE,O WITH ACUTE,O WITH CIRCUMFLEX,O WITH TILDE,O WITH DIAERESIS"],
   .listed 0xD7 "" ["MULTIPLICATION SIGN"],
   .listed 0xD8 "LATIN CAPITAL LETTER " [
    "O WITH STROKE,U WITH GRAVE,U WITH ACUTE,U WITH CIRCUMFLEX,U WITH DIAERESIS,Y WITH ACUTE",
    "THORN"],
   .listed 0xDF "LATIN SMALL LETTER " [
    "SHARP S,A WITH GRAVE,A WITH ACUTE,A WITH CIRCUMFLEX,A WITH TILDE,A WITH DIAERESIS",
    "A WITH RING ABOVE,AE,C WITH CEDILLA,E WITH GRAVE,E WITH ACUTE,E WITH CIRCUMFLEX",
    "E WITH DIAERESIS,I WITH GRAVE,I WITH ACUTE,I WITH CIRCUMFLEX,I WITH DIAERESIS,ETH",
    "N WITH TILDE,O WITH GRAVE,O WITH ACUTE,O WITH CIRCUMFLEX,O WITH TILDE,O WITH DIAERESIS"],
   .listed 0xF7 "" ["DIVISION SIGN"],
   .listed 0xF8 "LATIN SMALL LETTER " [
    "O WITH STROKE,U WITH GRAVE,U WITH ACUTE,U WITH CIRCUMFLEX,U WITH DIAERESIS,Y WITH ACUTE",
    "THORN,Y WITH DIAERESIS"],
   .paired 0x100 "LATIN " [
    "A WITH MACRON,A WITH BREVE,A WITH OGONEK,C WITH ACUTE,C WITH CIRCUMFLEX,C WITH DOT ABOVE",
    "C WITH CARON,D WITH CARON,D WITH STROKE,E WITH MACRON,E WITH BREVE,E WITH DOT ABOVE",
    "E WITH OGONEK,E WITH CARON,G WITH CIRCUMFLEX,G WITH BREVE,G WITH DOT ABOVE",
    "G WITH CEDILLA,H WITH CIRCUMFLEX,H WITH STROKE,I WITH TILDE,I WITH MACRON,I WITH BREVE",
    "I WITH OGONEK"],
   .listed 0x130 "LATIN " [
    "CAPITAL LETTER I WITH DOT ABOVE,SMALL LETTER DOTLESS I,CAPITAL LIGATURE IJ",
    "SMALL LIGATURE IJ"],
   .paired 0x134 "LATIN " ["J WITH CIRCUMFLEX,K WITH CEDILLA"],
   .listed 0x138 "" ["LATIN SMALL LETTER KRA"],
   .paired 0x139 "LATIN " [
    "L WITH ACUTE,L WITH CEDILLA,L WITH CARON,L WITH MIDDLE DOT,L WITH STROKE,N WITH ACUTE",
    "N WITH CEDILLA,N WITH CARON"],
   .listed 0x149 "" ["LATIN SMALL LETTER N PRECEDED BY APOSTROPHE"],
   .paired 0x14A "LATIN " ["ENG,O WITH MACRON,O WITH BREVE,O WITH DOUBLE ACUTE"],
   .listed 0x152 "LATIN " ["CAPITAL LIGATURE OE,SMALL LIGATURE OE"],
   .paired 0x154 "LATIN " [
    "R WITH ACUTE,R WITH CEDILLA,R WITH CARON,S WITH ACUTE,S WITH CIRCUMFLEX,S WITH CEDILLA",
    "S WITH CARON,T WITH CEDILLA,T WITH CARON,T WITH STROKE,U WITH TILDE,U WITH MACRON",
    "U WITH BREVE,U WITH RING ABOVE,U WITH DOUBLE ACUTE,U WITH OGONEK,W WITH CIRCUMFLEX",
    "Y WITH CIRCUMFLEX"],
   .listed 0x178 "" ["LATIN CAPITAL LETTER Y WITH DIAERESIS"],
   .paired 0x179 "LATIN " ["Z WITH ACUTE,Z WITH DOT ABOVE,Z WITH CARON"],
   .listed 0x17F "LATIN " [
    "SMALL LETTER LONG S,SMALL LETTER B WITH STROKE,CAPITAL LETTER B WITH HOOK"],
   .paired 0x182 "LATIN " ["B WITH TOPBAR,TONE SIX"],
   .listed 0x186 "LATIN " [
    "CAPITAL LETTER OPEN O,CAPITAL LETTER C WITH HOOK,SMALL LETTER C WITH HOOK",
    "CAPITAL LETTER AFRICAN D,CAPITAL LETTER D WITH HOOK,CAPITAL LETTER D WITH TOPBAR",
    "SMALL LETTER D WITH TOPBAR,SMALL LETTER TURNED DELTA,CAPITAL LETTER REVERSED E",
    "CAPITAL LETTER SCHWA,CAPITAL LETTER OPEN E,CAPITAL LETTER F WITH HOOK",
    "SMALL LETTER F WITH HOOK,CAPITAL LETTER G WITH HOOK,CAPITAL LETTER GAMMA,SMALL LETTER HV",
    "CAPITAL LETTER IOTA,CAPITAL LETTER I WITH STROKE,CAPITAL LETTER K WITH HOOK",
    "SMALL LETTER K WITH HOOK,SMALL LETTER L WITH BAR,SMALL LETTER LAMBDA WITH STROKE",
    "CAPITAL LETTER TURNED M,CAPITAL LETTER N WITH LEFT HOOK",
    "SMALL LETTER N WITH LONG RIGHT LEG,CAPITAL LETTER O WITH MIDDLE TILDE"],
   .paired 0x1A0 "LATIN " ["O WITH HORN,OI,P WITH HOOK"],
   .listed 0x1A6 "LATIN " [
    "LETTER YR,CAPITAL LETTER TONE TWO,SMALL LETTER TONE TWO,CAPITAL LETTER ESH",
    "LETTER REVERSED ESH LOOP,SMALL LETTER T WITH PALATAL HOOK,CAPITAL LETTER T WITH HOOK",
    "SMALL LETTER T WITH HOOK,CAPITAL LETTER T WITH RETROFLEX HOOK,CAPITAL LETTER U WITH HORN",
    "SMALL LETTER U WITH HORN,CAPITAL LETTER UPSILON,CAPITAL LETTER V WITH HOOK"],
   .paired 0x1B3 "LATIN " ["Y WITH HOOK,Z WITH STROKE"],
   .listed 0x1B7 "LATIN " [
    "CAPITAL LETTER EZH,CAPITAL LETTER EZH REVERSED,SMALL LETTER EZH REVERSED",
    "SMALL LETTER EZH WITH TAIL,LETTER TWO WITH STROKE,CAPITAL LETTER TONE FIVE",
    "SMALL LETTER TONE FIVE,LETTER INVERTED GLOTTAL STOP WITH STROKE,LETTER WYNN",
    "LETTER DENTAL CLICK,LETTER LATERAL CLICK,LETTER ALVEOLAR CLICK,LETTER RETROFLEX CLICK",
    "CAPITAL LETTER DZ WITH CARON,CAPITAL LETTER D WITH SMALL LETTER Z WITH CARON",
    "SMALL LETTER DZ WITH CARON,CAPITAL LETTER LJ,CAPITAL LETTER L WITH SMALL LETTER J",
    "SMALL LETTER LJ,CAPITAL LETTER NJ,CAPITAL LETTER N WITH SMALL LETTER J,SMALL LETTER NJ"],
   .paired 0x1CD "LATIN " [
    "A WITH CARON,I WITH CARON,O WITH CARON,U WITH CARON,U WITH DIAERESIS AND MACRON",
    "U WITH DIAERESIS AND ACUTE,U WITH DIAERESIS AND CARON,U WITH DIAERESIS AND GRAVE"],
   .listed 0x1DD "" ["LATIN SMALL LETTER TURNED E"],
   .paired 0x1DE "LATIN " [
    "A WITH DIAERESIS AND MACRON,A WITH DOT ABOVE AND MACRON,AE WITH MACRON,G WITH STROKE",
    "G WITH CARON,K WITH CARON,O WITH OGONEK,O WITH OGONEK AND MACRON,EZH WITH CARON"],
   .listed 0x1F0 "LATIN " [
    "SMALL LETTER J WITH CARON,CAPITAL LETTER DZ,CAPITAL LETTER D WITH SMALL LETTER Z",
    "SMALL LETTER DZ,CAPITAL LETTER G WITH ACUTE,SMALL LETTER G WITH ACUTE",
    "CAPITAL LETTER HWAIR,CAPITAL LETTER WYNN"],
   .paired 0x1F8 "LATIN " [
    "N WITH GRAVE,A WITH RING ABOVE AND ACUTE,AE WITH ACUTE,O WITH STROKE AND ACUTE",
    "A WITH DOUBLE GRAVE,A WITH INVERTED BREVE,E WITH DOUBLE GRAVE,E WITH INVERTED BREVE",
    "I WITH DOUBLE GRAVE,I WITH INVERTED BREVE,O WITH DOUBLE GRAVE,O WITH INVERTED BREVE",
    "R WITH DOUBLE GRAVE,R WITH INVERTED BREVE,U WITH DOUBLE GRAVE,U WITH INVERTED BREVE",
    "S WITH COMMA BELOW,T WITH COMMA BELOW,YOGH,H WITH CARON"],
   .listed 0x220 "LATIN " ["CAPITAL LETTER N WITH LONG RIGHT LEG,SMALL LETTER D WITH CURL"],
   .paired 0x222 "LATIN " [
    "OU,Z WITH HOOK,A WITH DOT ABOVE,E WITH CEDILLA,O WITH DIAERESIS AND MACRON",
    "O WITH TILDE AND MACRON,O WITH DOT ABOVE,O WITH DOT ABOVE AND MACRON,Y WITH MACRON"],
   .listed 0x234 "LATIN SMALL LETTER " [
    "L WITH CURL,N WITH CURL,T WITH CURL,DOTLESS J,DB DIGRAPH,QP DIGRAPH"],
   .listed 0x23A "LATIN " [
    "CAPITAL LETTER A WITH STROKE,CAPITAL LETTER C WITH STROKE,SMALL LETTER C WITH STROKE",
    "CAPITAL LETTER L WITH BAR,CAPITAL LETTER T WITH DIAGONAL STROKE",
    "SMALL LETTER S WITH SWASH TAIL,SMALL LETTER Z WITH SWASH TAIL"],
   .paired 0x241 "LATIN " ["GLOTTAL STOP"],
   .listed 0x243 "LATIN CAPITAL LETTER " ["B WITH STROKE,U BAR,TURNED V"],
   .paired 0x246 "LATIN " ["E WITH STROKE,J WITH STROKE"],
   .listed 0x24A "LATIN " ["CAPITAL LETTER SMALL Q WITH HOOK TAIL,SMALL LETTER Q WITH HOOK TAIL"],
   .paired 0x24C "LATIN " ["R WITH STROKE,Y WITH STROKE"],
   .listed 0x250 "LATIN SMALL LETTER " [
    "TURNED A,ALPHA,TURNED ALPHA,B WITH HOOK,OPEN O,C WITH CURL,D WITH TAIL,D WITH HOOK",
    "REVERSED E,SCHWA,SCHWA WITH HOOK,OPEN E,REVERSED OPEN E,REVERSED OPEN E WITH HOOK",
    "CLOSED REVERSED OPEN E,DOTLESS J WITH STROKE,G WITH HOOK,SCRIPT G"],
   .listed 0x262 "" ["LATIN LETTER SMALL CAPITAL G"],
   .listed 0x263 "LATIN SMALL LETTER " [
    "GAMMA,RAMS HORN,TURNED H,H WITH HOOK,HENG WITH HOOK,I WITH STROKE,IOTA"],
   .listed 0x26A "" ["LATIN LETTER SMALL CAPITAL I"],
   .listed 0x26B "LATIN SMALL LETTER " [
    "L WITH MIDDLE TILDE,L WITH BELT,L WITH RETROFLEX HOOK,LEZH,TURNED M",
    "TURNED M WITH LONG LEG,M WITH HOOK,N WITH LEFT HOOK,N WITH RETROFLEX HOOK"],
   .listed 0x274 "LATIN " ["LETTER SMALL CAPITAL N,SMALL LETTER BARRED O,LETTER SMALL CAPITAL OE"],
   .listed 0x277 "LATIN SMALL LETTER " [
    "CLOSED OMEGA,PHI,TURNED R,TURNED R WITH LONG LEG,TURNED R WITH HOOK,R WITH LONG LEG",
    "R WITH TAIL,R WITH FISHHOOK,REVERSED R WITH FISHHOOK"],
   .listed 0x280 "LATIN LETTER SMALL CAPITAL " ["R,INVERTED R"],
   .listed 0x282 "LATIN SMALL LETTER " [
    "S WITH HOOK,ESH,DOTLESS J WITH STROKE AND HOOK,SQUAT REVERSED ESH,ESH WITH CURL,TURNED T",
    "T WITH RETROFLEX HOOK,U BAR,UPSILON,V WITH HOOK,TURNED V,TURNED W,TURNED Y"],
   .listed 0x28F "LATIN " [
    "LETTER SMALL CAPITAL Y,SMALL LETTER Z WITH RETROFLEX HOOK,SMALL LETTER Z WITH CURL",
    "SMALL LETTER EZH,SMALL LETTER EZH WITH CURL,LETTER GLOTTAL STOP",
    "LETTER PHARYNGEAL VOICED FRICATIVE,LETTER INVERTED GLOTTAL STOP,LETTER STRETCHED C",
    "LETTER BILABIAL CLICK,LETTER SMALL CAPITAL B,SMALL LETTER CLOSED OPEN E",
    "LETTER SMALL CAPITAL G WITH HOOK,LETTER SMALL CAPITAL H,SMALL LETTER J WITH CROSSED-TAIL",
    "SMALL LETTER TURNED K,LETTER SMALL CAPITAL L,SMALL LETTER Q WITH HOOK",
    "LETTER GLOTTAL STOP WITH STROKE,LETTER REVERSED GLOTTAL STOP WITH STROKE"],
   .listed 0x2A3 "LATIN SMALL LETTER " [
    "DZ DIGRAPH,DEZH DIGRAPH,DZ DIGRAPH WITH CURL,TS DIGRAPH,TESH DIGRAPH",
    "TC DIGRAPH WITH CURL,FENG DIGRAPH,LS DIGRAPH,LZ DIGRAPH"],
   .listed 0x2AC "LATIN LETTER " ["BILABIAL PERCUSSIVE,BIDENTAL PERCUSSIVE"],
   .listed 0x2AE "LATIN SMALL LETTER TURNED H WITH " ["FISHHOOK,FISHHOOK AND TAIL"],
   .listed 0x2B0 "MODIFIER LETTER SMALL " [
    "H,H WITH HOOK,J,R,TURNED R,TURNED R WITH HOOK,CAPITAL INVERTED R,W,Y"],
   .listed 0x2B9 "MODIFIER LETTER " [
    "PRIME,DOUBLE PRIME,TURNED COMMA,APOSTROPHE,REVERSED COMMA,RIGHT HALF RING,LEFT HALF RING",
    "GLOTTAL STOP,REVERSED GLOTTAL STOP,LEFT ARROWHEAD,RIGHT ARROWHEAD,UP ARROWHEAD",
    "DOWN ARROWHEAD,CIRCUMFLEX ACCENT"],
   .listed 0x2C7 "" ["CARON"],
   .listed 0x2C8 "MODIFIER LETTER " [
    "VERTICAL LINE,MACRON,ACUTE ACCENT,GRAVE ACCENT,LOW VERTICAL LINE,LOW MACRON",
    "LOW GRAVE ACCENT,LOW ACUTE ACCENT,TRIANGULAR COLON,HALF TRIANGULAR COLON",
    "CENTRED RIGHT HALF RING,CENTRED LEFT HALF RING,UP TACK,DOWN TACK,PLUS SIGN,MINUS SIGN"],
   .listed 0x2D8 "" ["BREVE,DOT ABOVE,RING ABOVE,OGONEK,SMALL TILDE,DOUBLE ACUTE ACCENT"],
   .listed 0x2DE "MODIFIER LETTER " [
    "RHOTIC HOOK,CROSS ACCENT,SMALL GAMMA,SMALL L,SMALL S,SMALL X,SMALL REVERSED GLOTTAL STOP",
    "EXTRA-HIGH TONE BAR,HIGH TONE BAR,MID TONE BAR,LOW TONE BAR,EXTRA-LOW TONE BAR",
    "YIN DEPARTING TONE MARK,YANG DEPARTING TONE MARK,VOICING,UNASPIRATED,DOUBLE APOSTROPHE",
    "LOW DOWN ARROWHEAD,LOW UP ARROWHEAD,LOW LEFT ARROWHEAD,LOW RIGHT ARROWHEAD,LOW RING",
    "MIDDLE GRAVE ACCENT,MIDDLE DOUBLE GRAVE ACCENT,MIDDLE DOUBLE ACUTE ACCENT,LOW TILDE",
    "RAISED COLON,BEGIN HIGH TONE,END HIGH TONE,BEGIN LOW TONE,END LOW TONE,SHELF,OPEN SHELF",
    "LOW LEFT ARROW"],
   .listed 0x300 "COMBINING " [
    "GRAVE ACCENT,ACUTE ACCENT,CIRCUMFLEX ACCENT,TILDE,MACRON,OVERLINE,BREVE,DOT ABOVE",
    "DIAERESIS,HOOK ABOVE,RING ABOVE,DOUBLE ACUTE ACCENT,CARON,VERTICAL LINE ABOVE",
    "DOUBLE VERTICAL LINE ABOVE,DOUBLE GRAVE ACCENT,CANDRABINDU,INVERTED BREVE",
    "TURNED COMMA ABOVE,COMMA ABOVE,REVERSED COMMA ABOVE,COMMA ABOVE RIGHT,GRAVE ACCENT BELOW",
    "ACUTE ACCENT BELOW,LEFT TACK BELOW,RIGHT TACK BELOW,LEFT ANGLE ABOVE,HORN",
    "LEFT HALF RING BELOW,UP TACK BELOW,DOWN TACK BELOW,PLUS SIGN BELOW,MINUS SIGN BELOW",
    "PALATALIZED HOOK BELOW,RETROFLEX HOOK BELOW,DOT BELOW,DIAERESIS BELOW,RING BELOW",
    "COMMA BELOW,CEDILLA,OGONEK,VERTICAL LINE BELOW,BRIDGE BELOW,INVERTED DOUBLE ARCH BELOW",
    "CARON BELOW,CIRCUMFLEX ACCENT BELOW,BREVE BELOW,INVERTED BREVE BELOW,TILDE BELOW",
    "MACRON BELOW,LOW LINE,DOUBLE LOW LINE,TILDE OVERLAY,SHORT STROKE OVERLAY",
    "LONG STROKE OVERLAY,SHORT SOLIDUS OVERLAY,LONG SOLIDUS OVERLAY,RIGHT HALF RING BELOW",
    "INVERTED BRIDGE BELOW,SQUARE BELOW,SEAGULL BELOW,X ABOVE,VERTICAL TILDE,DOUBLE OVERLINE",
    "GRAVE TONE MARK,ACUTE TONE MARK,GREEK PERISPOMENI,GREEK KORONIS,GREEK DIALYTIKA TONOS",
    "GREEK YPOGEGRAMMENI,BRIDGE ABOVE,EQUALS SIGN BELOW,DOUBLE VERTICAL LINE BELOW",
    "LEFT ANGLE BELOW,NOT TILDE ABOVE,HOMOTHETIC ABOVE,ALMOST EQUAL TO ABOVE",
    "LEFT RIGHT ARROW BELOW,UPWARDS ARROW BELOW,GRAPHEME JOINER,RIGHT ARROWHEAD ABOVE",
    "LEFT HALF RING ABOVE,FERMATA,X BELOW,LEFT ARROWHEAD BELOW,RIGHT ARROWHEAD BELOW",
    "RIGHT ARROWHEAD AND UP ARROWHEAD BELOW,RIGHT HALF RING ABOVE,DOT ABOVE RIGHT",
    "ASTERISK BELOW,DOUBLE RING BELOW,ZIGZAG ABOVE"],
   .listed 0x35C "COMBINING DOUBLE " [
    "BREVE BELOW,BREVE,MACRON,MACRON BELOW,TILDE,INVERTED BREVE,RIGHTWARDS ARROW BELOW"],
   .listed 0x363 "COMBINING LATIN SMALL LETTER " ["A,E,I,O,U,C,D,H,M,R,T,V,X"],
   .paired 0x370 "GREEK " ["HETA,ARCHAIC SAMPI"],
   .listed 0x374 "GREEK " ["NUMERAL SIGN,LOWER NUMERAL SIGN"],
   .paired 0x376 "GREEK " ["PAMPHYLIAN DIGAMMA"],
   .listed 0x37A "GREEK " [
    "YPOGEGRAMMENI,SMALL REVERSED LUNATE SIGMA SYMBOL,SMALL DOTTED LUNATE SIGMA SYMBOL",
    "SMALL REVERSED DOTTED LUNATE SIGMA SYMBOL,QUESTION MARK,CAPITAL LETTER YOT"],
   .listed 0x384 "GREEK " [
    "TONOS,DIALYTIKA TONOS,CAPITAL LETTER ALPHA WITH TONOS,ANO TELEIA",
    "CAPITAL LETTER EPSILON WITH TONOS,CAPITAL LETTER ETA WITH TONOS",
    "CAPITAL LETTER IOTA WITH TONOS"],
   .listed 0x38C "" ["GREEK CAPITAL LETTER OMICRON WITH TONOS"],
   .listed 0x38E "GREEK " [
    "CAPITAL LETTER UPSILON WITH TONOS,CAPITAL LETTER OMEGA WITH TONOS",
    "SMALL LETTER IOTA WITH DIALYTIKA AND TONOS"],
   .listed 0x391 "GREEK CAPITAL LETTER " [
    "ALPHA,BETA,GAMMA,DELTA,EPSILON,ZETA,ETA,THETA,IOTA,KAPPA,LAMDA,MU,NU,XI,OMICRON,PI,RHO"],
   .listed 0x3A3 "GREEK CAPITAL LETTER " [
    "SIGMA,TAU,UPSILON,PHI,CHI,PSI,OMEGA,IOTA WITH DIALYTIKA,UPSILON WITH DIALYTIKA"],
   .listed 0x3AC "GREEK SMALL LETTER " [
    "ALPHA WITH TONOS,EPSILON WITH TONOS,ETA WITH TONOS,IOTA WITH TONOS",
    "UPSILON WITH DIALYTIKA AND TONOS,ALPHA,BETA,GAMMA,DELTA,EPSILON,ZETA,ETA,THETA,IOTA",
    "KAPPA,LAMDA,MU,NU,XI,OMICRON,PI,RHO,FINAL SIGMA,SIGMA,TAU,UPSILON,PHI,CHI,PSI,OMEGA",
    "IOTA WITH DIALYTIKA,UPSILON WITH DIALYTIKA,OMICRON WITH TONOS,UPSILON WITH TONOS",
    "OMEGA WITH TONOS"],
   .listed 0x3CF "GREEK " [
    "CAPITAL KAI SYMBOL,BETA SYMBOL,THETA SYMBOL,UPSILON WITH HOOK SYMBOL",
    "UPSILON WITH ACUTE AND HOOK SYMBOL,UPSILON WITH DIAERESIS AND HOOK SYMBOL,PHI SYMBOL",
    "PI SYMBOL,KAI SYMBOL,LETTER ARCHAIC KOPPA,SMALL LETTER ARCHAIC KOPPA,LETTER STIGMA",
    "SMALL LETTER STIGMA,LETTER DIGAMMA,SMALL LETTER DIGAMMA,LETTER KOPPA,SMALL LETTER KOPPA",
    "LETTER SAMPI,SMALL LETTER SAMPI"],
   .paired 0x3E2 "COPTIC " ["SHEI,FEI,KHEI,HORI,GANGIA,SHIMA,DEI"],
   .listed 0x3F0 "GREEK " [
    "KAPPA SYMBOL,RHO SYMBOL,LUNATE SIGMA SYMBOL,LETTER YOT,CAPITAL THETA SYMBOL",
    "LUNATE EPSILON SYMBOL,REVERSED LUNATE EPSILON SYMBOL,CAPITAL LETTER SHO,SMALL LETTER SHO",
    "CAPITAL LUNATE SIGMA SYMBOL,CAPITAL LETTER SAN,SMALL LETTER SAN,RHO WITH STROKE SYMBOL",
    "CAPITAL REVERSED LUNATE SIGMA SYMBOL,CAPITAL DOTTED LUNATE SIGMA SYMBOL",
    "CAPITAL REVERSED DOTTED LUNATE SIGMA SYMBOL"],
   .listed 0x400 "CYRILLIC CAPITAL LETTER " [
    "IE WITH GRAVE,IO,DJE,GJE,UKRAINIAN IE,DZE,BYELORUSSIAN-UKRAINIAN I,YI,JE,LJE,NJE,TSHE",
    "KJE,I WITH GRAVE,SHORT U,DZHE,A,BE,VE,GHE,DE,IE,ZHE,ZE,I,SHORT I,KA,EL,EM,EN,O,PE,ER,ES",
    "TE,U,EF,HA,TSE,CHE,SHA,SHCHA,HARD SIGN,YERU,SOFT SIGN,E,YU,YA"],
   .listed 0x430 "CYRILLIC SMALL LETTER " [
    "A,BE,VE,GHE,DE,IE,ZHE,ZE,I,SHORT I,KA,EL,EM,EN,O,PE,ER,ES,TE,U,EF,HA,TSE,CHE,SHA,SHCHA",
    "HARD SIGN,YERU,SOFT SIGN,E,YU,YA,IE WITH GRAVE,IO,DJE,GJE,UKRAINIAN IE,DZE",
    "BYELORUSSIAN-UKRAINIAN I,YI,JE,LJE,NJE,TSHE,KJE,I WITH GRAVE,SHORT U,DZHE"],
   .paired 0x460 "CYRILLIC " [
    "OMEGA,YAT,IOTIFIED E,LITTLE YUS,IOTIFIED LITTLE YUS,BIG YUS,IOTIFIED BIG YUS,KSI,PSI",
    "FITA,IZHITSA,IZHITSA WITH DOUBLE GRAVE ACCENT,UK,ROUND OMEGA,OMEGA WITH TITLO,OT,KOPPA"],
   .listed 0x482 "" ["CYRILLIC THOUSANDS SIGN"],
   .listed 0x483 "COMBINING CYRILLIC " [
    "TITLO,PALATALIZATION,DASIA PNEUMATA,PSILI PNEUMATA,POKRYTIE,HUNDRED THOUSANDS SIGN",
    "MILLIONS SIGN"],
   .paired 0x48A "CYRILLIC " [
    "SHORT I WITH TAIL,SEMISOFT SIGN,ER WITH TICK,GHE WITH UPTURN,GHE WITH STROKE",
    "GHE WITH MIDDLE HOOK,ZHE WITH DESCENDER,ZE WITH DESCENDER,KA WITH DESCENDER",
    "KA WITH VERTICAL STROKE,KA WITH STROKE,BASHKIR KA,EN WITH DESCENDER"],
   .listed 0x4A4 "CYRILLIC " ["CAPITAL LIGATURE EN GHE,SMALL LIGATURE EN GHE"],
   .paired 0x4A6 "CYRILLIC " [
    "PE WITH MIDDLE HOOK,ABKHASIAN HA,ES WITH DESCENDER,TE WITH DESCENDER,STRAIGHT U",
    "STRAIGHT U WITH STROKE,HA WITH DESCENDER"],
   .listed 0x4B4 "CYRILLIC " ["CAPITAL LIGATURE TE TSE,SMALL LIGATURE TE TSE"],
   .paired 0x4B6 "CYRILLIC " [
    "CHE WITH DESCENDER,CHE WITH VERTICAL STROKE,SHHA,ABKHASIAN CHE",
    "ABKHASIAN CHE WITH DESCENDER"],
   .listed 0x4C0 "" ["CYRILLIC LETTER PALOCHKA"],
   .paired 0x4C1 "CYRILLIC " [
    "ZHE WITH BREVE,KA WITH HOOK,EL WITH TAIL,EN WITH HOOK,EN WITH TAIL,KHAKASSIAN CHE",
    "EM WITH TAIL"],
   .listed 0x4CF "" ["CYRILLIC SMALL LETTER PALOCHKA"],
   .paired 0x4D0 "CYRILLIC " ["A WITH BREVE,A WITH DIAERESIS"],
   .listed 0x4D4 "CYRILLIC " ["CAPITAL LIGATURE A IE,SMALL LIGATURE A IE"],
   .paired 0x4D6 "CYRILLIC " [
    "IE WITH BREVE,SCHWA,SCHWA WITH DIAERESIS,ZHE WITH DIAERESIS,ZE WITH DIAERESIS",
    "ABKHASIAN DZE,I WITH MACRON,I WITH DIAERESIS,O WITH DIAERESIS,BARRED O",
    "BARRED O WITH DIAERESIS,E WITH DIAERESIS,U WITH MACRON,U WITH DIAERESIS",
    "U WITH DOUBLE ACUTE,CHE WITH DIAERESIS,GHE WITH DESCENDER,YERU WITH DIAERESIS",
    "GHE WITH STROKE AND HOOK,HA WITH HOOK,HA WITH STROKE,KOMI DE,KOMI DJE,KOMI ZJE,KOMI DZJE",
    "KOMI LJE,KOMI NJE,KOMI SJE,KOMI TJE,REVERSED ZE,EL WITH HOOK,LHA,RHA,YAE,QA,WE,ALEUT KA",
    "EL WITH MIDDLE HOOK,EN WITH MIDDLE HOOK,PE WITH DESCENDER,SHHA WITH DESCENDER",
    "EN WITH LEFT HOOK,DZZHE,DCHE,EL WITH DESCENDER"],
   .listed 0x531 "ARMENIAN CAPITAL LETTER " [
    "AYB,BEN,GIM,DA,ECH,ZA,EH,ET,TO,ZHE,INI,LIWN,XEH,CA,KEN,HO,JA,GHAD,CHEH,MEN,YI,NOW,SHA,VO",
    "CHA,PEH,JHEH,RA,SEH,VEW,TIWN,REH,CO,YIWN,PIWR,KEH,OH,FEH"],
   .listed 0x559 "ARMENIAN " [
    "MODIFIER LETTER LEFT HALF RING,APOSTROPHE,EMPHASIS MARK,EXCLAMATION MARK,COMMA",
    "QUESTION MARK,ABBREVIATION MARK"],
   .listed 0x560 "ARMENIAN SMALL LETTER " [
    "TURNED AYB,AYB,BEN,GIM,DA,ECH,ZA,EH,ET,TO,ZHE,INI,LIWN,XEH,CA,KEN,HO,JA,GHAD,CHEH,MEN,YI",
    "NOW,SHA,VO,CHA,PEH,JHEH,RA,SEH,VEW,TIWN,REH,CO,YIWN,PIWR,KEH,OH,FEH"],
   .listed 0x587 "ARMENIAN " [
    "SMALL LIGATURE ECH YIWN,SMALL LETTER YI WITH STROKE,FULL STOP,HYPHEN"],
   .listed 0x58D "" [
    "RIGHT-FACING ARMENIAN ETERNITY SIGN,LEFT-FACING ARMENIAN ETERNITY SIGN",
    "ARMENIAN DRAM SIGN"]]

end ResourceQuery.Text
