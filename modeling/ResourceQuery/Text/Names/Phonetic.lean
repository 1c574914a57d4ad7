import ResourceQuery.Text.NameRun

/-!
Names of the characters from 1D00 to 1FFE: phonetic letters, further Latin
letters, and Greek letters with breathings.
-/

namespace ResourceQuery.Text

def phoneticNames : List NameRun :=
  [.listed 0x1D00 "LATIN " [
    "LETTER SMALL CAPITAL A,LETTER SMALL CAPITAL AE,SMALL LETTER TURNED AE"],
   .listed 0x1D03 "LATIN LETTER SMALL CAPITAL " ["BARRED B,C,D,ETH,E"],
   .listed 0x1D08 "LATIN SMALL LETTER TURNED " ["OPEN E,I"],
   .listed 0x1D0A "LATIN LETTER SMALL CAPITAL " ["J,K,L WITH STROKE,M,REVERSED N,O,OPEN O"],
   .listed 0x1D11 "LATIN SMALL LETTER SIDEWAYS " ["O,OPEN O,O WITH STROKE"],
   .listed 0x1D14 "LATIN " [
    "SMALL LETTER TURNED OE,LETTER SMALL CAPITAL OU,SMALL LETTER TOP HALF O",
    "SMALL LETTER BOTTOM HALF O"],
   .listed 0x1D18 "LATIN LETTER SMALL CAPITAL " ["P,REVERSED R,TURNED R,T,U"],
   .listed 0x1D1D "LATIN SMALL LETTER SIDEWAYS " ["U,DIAERESIZED U,TURNED M"],
   .listed 0x1D20 "LATIN LETTER SMALL CAPITAL " ["V,W,Z,EZH"],
   .listed 0x1D24 "LATIN LETTER " ["VOICED LARYNGEAL SPIRANT,AIN"],
   .listed 0x1D26 "GREEK LETTER SMALL CAPITAL " ["GAMMA,LAMDA,PI,RHO,PSI"],
   .listed 0x1D2B "" ["CYRILLIC LETTER SMALL CAPITAL EL"],
   .listed 0x1D2C "MODIFIER LETTER CAPITAL " [
    "A,AE,B,BARRED B,D,E,REVERSED E,G,H,I,J,K,L,M,N,REVERSED N,O,OU,P,R,T,U,W"],
   .listed 0x1D43 "MODIFIER LETTER SMALL " [
    "A,TURNED A,ALPHA,TURNED AE,B,D,E,SCHWA,OPEN E,TURNED OPEN E,G,TURNED I,K,M,ENG,O,OPEN O",
    "TOP HALF O,BOTTOM HALF O,P,T,U,SIDEWAYS U,TURNED M,V,AIN,BETA,GREEK GAMMA,DELTA",
    "GREEK PHI,CHI"],
   .listed 0x1D62 "LATIN SUBSCRIPT SMALL LETTER " ["I,R,U,V"],
   .listed 0x1D66 "GREEK SUBSCRIPT SMALL LETTER " ["BETA,GAMMA,RHO,PHI,CHI"],
   .listed 0x1D6B "LATIN SMALL LETTER " [
    "UE,B WITH MIDDLE TILDE,D WITH MIDDLE TILDE,F WITH MIDDLE TILDE,M WITH MIDDLE TILDE",
    "N WITH MIDDLE TILDE,P WITH MIDDLE TILDE,R WITH MIDDLE TILDE",
    "R WITH FISHHOOK AND MIDDLE TILDE,S WITH MIDDLE TILDE,T WITH MIDDLE TILDE",
    "Z WITH MIDDLE TILDE,TURNED G"],
   .listed 0x1D78 "" ["MODIFIER LETTER CYRILLIC EN"],
   .listed 0x1D79 "LATIN SMALL " [
    "LETTER INSULAR G,LETTER TH WITH STRIKETHROUGH,CAPITAL LETTER I WITH STROKE",
    "LETTER IOTA WITH STROKE,LETTER P WITH STROKE,CAPITAL LETTER U WITH STROKE"],
   .listed 0x1D7F "LATIN SMALL LETTER " [
    "UPSILON WITH STROKE,B WITH PALATAL HOOK,D WITH PALATAL HOOK,F WITH PALATAL HOOK",
    "G WITH PALATAL HOOK,K WITH PALATAL HOOK,L WITH PALATAL HOOK,M WITH PALATAL HOOK",
    "N WITH PALATAL HOOK,P WITH PALATAL HOOK,R WITH PALATAL HOOK,S WITH PALATAL HOOK",
    "ESH WITH PALATAL HOOK,V WITH PALATAL HOOK,X WITH PALATAL HOOK,Z WITH PALATAL HOOK",
    "A WITH RETROFLEX HOOK,ALPHA WITH RETROFLEX HOOK,D WITH HOOK AND TAIL",
    "E WITH RETROFLEX HOOK,OPEN E WITH RETROFLEX HOOK,REVERSED OPEN E WITH RETROFLEX HOOK",
    "SCHWA WITH RETROFLEX HOOK,I WITH RETROFLEX HOOK,OPEN O WITH RETROFLEX HOOK",
    "ESH WITH RETROFLEX HOOK,U WITH RETROFLEX HOOK,EZH WITH RETROFLEX HOOK"],
   .listed 0x1D9B "MODIFIER LETTER SMALL " [
    "TURNED ALPHA,C,C WITH CURL,ETH,REVERSED OPEN E,F,DOTLESS J WITH STROKE,SCRIPT G,TURNED H",
    "I WITH STROKE,IOTA,CAPITAL I,CAPITAL I WITH STROKE,J WITH CROSSED-TAIL",
    "L WITH RETROFLEX HOOK,L WITH PALATAL HOOK,CAPITAL L,M WITH HOOK,TURNED M WITH LONG LEG",
    "N WITH LEFT HOOK,N WITH RETROFLEX HOOK,CAPITAL N,BARRED O,PHI,S WITH HOOK,ESH",
    "T WITH PALATAL HOOK,U BAR,UPSILON,CAPITAL U,V WITH HOOK,TURNED V,Z,Z WITH RETROFLEX HOOK",
    "Z WITH CURL,EZH,THETA"],
   .listed 0x1DC0 "COMBINING " [
    "DOTTED GRAVE ACCENT,DOTTED ACUTE ACCENT,SNAKE BELOW,SUSPENSION MARK,MACRON-ACUTE",
    "GRAVE-MACRON,MACRON-GRAVE,ACUTE-MACRON,GRAVE-ACUTE-GRAVE,ACUTE-GRAVE-ACUTE",
    "LATIN SMALL LETTER R BELOW,BREVE-MACRON,MACRON-BREVE,DOUBLE CIRCUMFLEX ABOVE",
    "OGONEK ABOVE,ZIGZAG BELOW,IS BELOW,UR ABOVE,US ABOVE"],
   .listed 0x1DD3 "COMBINING LATIN SMALL LETTER " [
    "FLATTENED OPEN A ABOVE,AE,AO,AV,C CEDILLA,INSULAR D,ETH,G"],
   .listed 0x1DDB "COMBINING LATIN " [
    "LETTER SMALL CAPITAL G,SMALL LETTER K,SMALL LETTER L,LETTER SMALL CAPITAL L",
    "LETTER SMALL CAPITAL M,SMALL LETTER N,LETTER SMALL CAPITAL N,LETTER SMALL CAPITAL R"],
   .listed 0x1DE3 "COMBINING LATIN SMALL LETTER " [
    "R ROTUNDA,S,LONG S,Z,ALPHA,B,BETA,SCHWA,F,L WITH DOUBLE MIDDLE TILDE",
    "O WITH LIGHT CENTRALIZATION STROKE,P,ESH,U WITH LIGHT CENTRALIZATION STROKE,W",
    "A WITH DIAERESIS,O WITH DIAERESIS,U WITH DIAERESIS"],
   .listed 0x1DF5 "COMBINING " [
    "UP TACK ABOVE,KAVYKA ABOVE RIGHT,KAVYKA ABOVE LEFT,DOT ABOVE LEFT",
    "WIDE INVERTED BRIDGE BELOW,DOT BELOW LEFT,DELETION MARK,DOUBLE INVERTED BREVE BELOW",
    "ALMOST EQUAL TO BELOW,LEFT ARROWHEAD ABOVE,RIGHT ARROWHEAD AND DOWN ARROWHEAD BELOW"],
   .paired 0x1E00 "LATIN " [
    "A WITH RING BELOW,B WITH DOT ABOVE,B WITH DOT BELOW,B WITH LINE BELOW",
    "C WITH CEDILLA AND ACUTE,D WITH DOT ABOVE,D WITH DOT BELOW,D WITH LINE BELOW",
    "D WITH CEDILLA,D WITH CIRCUMFLEX BELOW,E WITH MACRON AND GRAVE,E WITH MACRON AND ACUTE",
    "E WITH CIRCUMFLEX BELOW,E WITH TILDE BELOW,E WITH CEDILLA AND BREVE,F WITH DOT ABOVE",
    "G WITH MACRON,H WITH DOT ABOVE,H WITH DOT BELOW,H WITH DIAERESIS,H WITH CEDILLA",
    "H WITH BREVE BELOW,I WITH TILDE BELOW,I WITH DIAERESIS AND ACUTE,K WITH ACUTE",
    "K WITH DOT BELOW,K WITH LINE BELOW,L WITH DOT BELOW,L WITH DOT BELOW AND MACRON",
    "L WITH LINE BELOW,L WITH CIRCUMFLEX BELOW,M WITH ACUTE,M WITH DOT ABOVE,M WITH DOT BELOW",
    "N WITH DOT ABOVE,N WITH DOT BELOW,N WITH LINE BELOW,N WITH CIRCUMFLEX BELOW",
    "O WITH TILDE AND ACUTE,O WITH TILDE AND DIAERESIS,O WITH MACRON AND GRAVE",
    "O WITH MACRON AND ACUTE,P WITH ACUTE,P WITH DOT ABOVE,R WITH DOT ABOVE,R WITH DOT BELOW",
    "R WITH DOT BELOW AND MACRON,R WITH LINE BELOW,S WITH DOT ABOVE,S WITH DOT BELOW",
    "S WITH ACUTE AND DOT ABOVE,S WITH CARON AND DOT ABOVE,S WITH DOT BELOW AND DOT ABOVE",
    "T WITH DOT ABOVE,T WITH DOT BELOW,T WITH LINE BELOW,T WITH CIRCUMFLEX BELOW",
    "U WITH DIAERESIS BELOW,U WITH TILDE BELOW,U WITH CIRCUMFLEX BELOW,U WITH TILDE AND ACUTE",
    "U WITH MACRON AND DIAERESIS,V WITH TILDE,V WITH DOT BELOW,W WITH GRAVE,W WITH ACUTE",
    "W WITH DIAERESIS,W WITH DOT ABOVE,W WITH DOT BELOW,X WITH DOT ABOVE,X WITH DIAERESIS",
    "Y WITH DOT ABOVE,Z WITH CIRCUMFLEX,Z WITH DOT BELOW,Z WITH LINE BELOW"],
   .listed 0x1E96 "LATIN SMALL LETTER " [
    "H WITH LINE BELOW,T WITH DIAERESIS,W WITH RING ABOVE,Y WITH RING ABOVE",
    "A WITH RIGHT HALF RING,LONG S WITH DOT ABOVE,LONG S WITH DIAGONAL STROKE",
    "LONG S WITH HIGH STROKE"],
   .listed 0x1E9E "LATIN " ["CAPITAL LETTER SHARP S,SMALL LETTER DELTA"],
   .paired 0x1EA0 "LATIN " [
    "A WITH DOT BELOW,A WITH HOOK ABOVE,A WITH CIRCUMFLEX AND ACUTE",
    "A WITH CIRCUMFLEX AND GRAVE,A WITH CIRCUMFLEX AND HOOK ABOVE,A WITH CIRCUMFLEX AND TILDE",
    "A WITH CIRCUMFLEX AND DOT BELOW,A WITH BREVE AND ACUTE,A WITH BREVE AND GRAVE",
    "A WITH BREVE AND HOOK ABOVE,A WITH BREVE AND TILDE,A WITH BREVE AND DOT BELOW",
    "E WITH DOT BELOW,E WITH HOOK ABOVE,E WITH TILDE,E WITH CIRCUMFLEX AND ACUTE",
    "E WITH CIRCUMFLEX AND GRAVE,E WITH CIRCUMFLEX AND HOOK ABOVE,E WITH CIRCUMFLEX AND TILDE",
    "E WITH CIRCUMFLEX AND DOT BELOW,I WITH HOOK ABOVE,I WITH DOT BELOW,O WITH DOT BELOW",
    "O WITH HOOK ABOVE,O WITH CIRCUMFLEX AND ACUTE,O WITH CIRCUMFLEX AND GRAVE",
    "O WITH CIRCUMFLEX AND HOOK ABOVE,O WITH CIRCUMFLEX AND TILDE",
    "O WITH CIRCUMFLEX AND DOT BELOW,O WITH HORN AND ACUTE,O WITH HORN AND GRAVE",
    "O WITH HORN AND HOOK ABOVE,O WITH HORN AND TILDE,O WITH HORN AND DOT BELOW",
    "U WITH DOT BELOW,U WITH HOOK ABOVE,U WITH HORN AND ACUTE,U WITH HORN AND GRAVE",
    "U WITH HORN AND HOOK ABOVE,U WITH HORN AND TILDE,U WITH HORN AND DOT BELOW,Y WITH GRAVE",
    "Y WITH DOT BELOW,Y WITH HOOK ABOVE,Y WITH TILDE,MIDDLE-WELSH LL,MIDDLE-WELSH V",
    "Y WITH LOOP"],
   .listed 0x1F00 "GREEK SMALL LETTER ALPHA WITH " [
    "PSILI,DASIA,PSILI AND VARIA,DASIA AND VARIA,PSILI AND OXIA,DASIA AND OXIA",
    "PSILI AND PERISPOMENI,DASIA AND PERISPOMENI"],
   .listed 0x1F08 "GREEK CAPITAL LETTER ALPHA WITH " [
    "PSILI,DASIA,PSILI AND VARIA,DASIA AND VARIA,PSILI AND OXIA,DASIA AND OXIA",
    "PSILI AND PERISPOMENI,DASIA AND PERISPOMENI"],
   .listed 0x1F10 "GREEK SMALL LETTER EPSILON WITH " [
    "PSILI,DASIA,PSILI AND VARIA,DASIA AND VARIA,PSILI AND OXIA,DASIA AND OXIA"],
   .listed 0x1F18 "GREEK CAPITAL LETTER EPSILON WITH " [
    "PSILI,DASIA,PSILI AND VARIA,DASIA AND VARIA,PSILI AND OXIA,DASIA AND OXIA"],
   .listed 0x1F20 "GREEK SMALL LETTER ETA WITH " [
    "PSILI,DASIA,PSILI AND VARIA,DASIA AND VARIA,PSILI AND OXIA,DASIA AND OXIA",
    "PSILI AND PERISPOMENI,DASIA AND PERISPOMENI"],
   .listed 0x1F28 "GREEK CAPITAL LETTER ETA WITH " [
    "PSILI,DASIA,PSILI AND VARIA,DASIA AND VARIA,PSILI AND OXIA,DASIA AND OXIA",
    "PSILI AND PERISPOMENI,DASIA AND PERISPOMENI"],
   .listed 0x1F30 "GREEK SMALL LETTER IOTA WITH " [
    "PSILI,DASIA,PSILI AND VARIA,DASIA AND VARIA,PSILI AND OXIA,DASIA AND OXIA",
    "PSILI AND PERISPOMENI,DASIA AND PERISPOMENI"],
   .listed 0x1F38 "GREEK CAPITAL LETTER IOTA WITH " [
    "PSILI,DASIA,PSILI AND VARIA,DASIA AND VARIA,PSILI AND OXIA,DASIA AND OXIA",
    "PSILI AND PERISPOMENI,DASIA AND PERISPOMENI"],
   .listed 0x1F40 "GREEK SMALL LETTER OMICRON WITH " [
    "PSILI,DASIA,PSILI AND VARIA,DASIA AND VARIA,PSILI AND OXIA,DASIA AND OXIA"],
   .listed 0x1F48 "GREEK CAPITAL LETTER OMICRON WITH " [
    "PSILI,DASIA,PSILI AND VARIA,DASIA AND VARIA,PSILI AND OXIA,DASIA AND OXIA"],
   .listed 0x1F50 "GREEK SMALL LETTER UPSILON WITH " [
    "PSILI,DASIA,PSILI AND VARIA,DASIA AND VARIA,PSILI AND OXIA,DASIA AND OXIA",
    "PSILI AND PERISPOMENI,DASIA AND PERISPOMENI"],
   .listed 0x1F59 "" ["GREEK CAPITAL LETTER UPSILON WITH DASIA"],
   .listed 0x1F5B "" ["GREEK CAPITAL LETTER UPSILON WITH DASIA AND VARIA"],
   .listed 0x1F5D "" ["GREEK CAPITAL LETTER UPSILON WITH DASIA AND OXIA"],
   .listed 0x1F5F "" ["GREEK CAPITAL LETTER UPSILON WITH DASIA AND PERISPOMENI"],
   .listed 0x1F60 "GREEK SMALL LETTER OMEGA WITH " [
    "PSILI,DASIA,PSILI AND VARIA,DASIA AND VARIA,PSILI AND OXIA,DASIA AND OXIA",
    "PSILI AND PERISPOMENI,DASIA AND PERISPOMENI"],
   .listed 0x1F68 "GREEK CAPITAL LETTER OMEGA WITH " [
    "PSILI,DASIA,PSILI AND VARIA,DASIA AND VARIA,PSILI AND OXIA,DASIA AND OXIA",
    "PSILI AND PERISPOMENI,DASIA AND PERISPOMENI"],
   .listed 0x1F70 "GREEK SMALL LETTER " [
    "ALPHA WITH VARIA,ALPHA WITH OXIA,EPSILON WITH VARIA,EPSILON WITH OXIA,ETA WITH VARIA",
    "ETA WITH OXIA,IOTA WITH VARIA,IOTA WITH OXIA,OMICRON WITH VARIA,OMICRON WITH OXIA",
    "UPSILON WITH VARIA,UPSILON WITH OXIA,OMEGA WITH VARIA,OMEGA WITH OXIA"],
   .listed 0x1F80 "GREEK SMALL LETTER ALPHA WITH " [
    "PSILI AND YPOGEGRAMMENI,DASIA AND YPOGEGRAMMENI,PSILI AND VARIA AND YPOGEGRAMMENI",
    "DASIA AND VARIA AND YPOGEGRAMMENI,PSILI AND OXIA AND YPOGEGRAMMENI",
    "DASIA AND OXIA AND YPOGEGRAMMENI,PSILI AND PERISPOMENI AND YPOGEGRAMMENI",
    "DASIA AND PERISPOMENI AND YPOGEGRAMMENI"],
   .listed 0x1F88 "GREEK CAPITAL LETTER ALPHA WITH " [
    "PSILI AND PROSGEGRAMMENI,DASIA AND PROSGEGRAMMENI,PSILI AND VARIA AND PROSGEGRAMMENI",
    "DASIA AND VARIA AND PROSGEGRAMMENI,PSILI AND OXIA AND PROSGEGRAMMENI",
    "DASIA AND OXIA AND PROSGEGRAMMENI,PSILI AND PERISPOMENI AND PROSGEGRAMMENI",
    "DASIA AND PERISPOMENI AND PROSGEGRAMMENI"],
   .listed 0x1F90 "GREEK SMALL LETTER ETA WITH " [
    "PSILI AND YPOGEGRAMMENI,DASIA AND YPOGEGRAMMENI,PSILI AND VARIA AND YPOGEGRAMMENI",
    "DASIA AND VARIA AND YPOGEGRAMMENI,PSILI AND OXIA AND YPOGEGRAMMENI",
    "DASIA AND OXIA AND YPOGEGRAMMENI,PSILI AND PERISPOMENI AND YPOGEGRAMMENI",
    "DASIA AND PERISPOMENI AND YPOGEGRAMMENI"],
   .listed 0x1F98 "GREEK CAPITAL LETTER ETA WITH " [
    "PSILI AND PROSGEGRAMMENI,DASIA AND PROSGEGRAMMENI,PSILI AND VARIA AND PROSGEGRAMMENI",
    "DASIA AND VARIA AND PROSGEGRAMMENI,PSILI AND OXIA AND PROSGEGRAMMENI",
    "DASIA AND OXIA AND PROSGEGRAMMENI,PSILI AND PERISPOMENI AND PROSGEGRAMMENI",
    "DASIA AND PERISPOMENI AND PROSGEGRAMMENI"],
   .listed 0x1FA0 "GREEK SMALL LETTER OMEGA WITH " [
    "PSILI AND YPOGEGRAMMENI,DASIA AND YPOGEGRAMMENI,PSILI AND VARIA AND YPOGEGRAMMENI",
    "DASIA AND VARIA AND YPOGEGRAMMENI,PSILI AND OXIA AND YPOGEGRAMMENI",
    "DASIA AND OXIA AND YPOGEGRAMMENI,PSILI AND PERISPOMENI AND YPOGEGRAMMENI",
    "DASIA AND PERISPOMENI AND YPOGEGRAMMENI"],
   .listed 0x1FA8 "GREEK CAPITAL LETTER OMEGA WITH " [
    "PSILI AND PROSGEGRAMMENI,DASIA AND PROSGEGRAMMENI,PSILI AND VARIA AND PROSGEGRAMMENI",
    "DASIA AND VARIA AND PROSGEGRAMMENI,PSILI AND OXIA AND PROSGEGRAMMENI",
    "DASIA AND OXIA AND PROSGEGRAMMENI,PSILI AND PERISPOMENI AND PROSGEGRAMMENI",
    "DASIA AND PERISPOMENI AND PROSGEGRAMMENI"],
   .listed 0x1FB0 "GREEK SMALL LETTER ALPHA WITH " [
    "VRACHY,MACRON,VARIA AND YPOGEGRAMMENI,YPOGEGRAMMENI,OXIA AND YPOGEGRAMMENI"],
   .listed 0x1FB6 "GREEK SMALL LETTER ALPHA WITH " ["PERISPOMENI,PERISPOMENI AND YPOGEGRAMMENI"],
   .listed 0x1FB8 "GREEK CAPITAL LETTER ALPHA WITH " ["VRACHY,MACRON,VARIA,OXIA,PROSGEGRAMMENI"],
   .listed 0x1FBD "GREEK " ["KORONIS,PROSGEGRAMMENI,PSILI,PERISPOMENI,DIALYTIKA AND PERISPOMENI"],
   .listed 0x1FC2 "GREEK SMALL LETTER ETA WITH " [
    "VARIA AND YPOGEGRAMMENI,YPOGEGRAMMENI,OXIA AND YPOGEGRAMMENI"],
   .listed 0x1FC6 "GREEK SMALL LETTER ETA WITH " ["PERISPOMENI,PERISPOMENI AND YPOGEGRAMMENI"],
   .listed 0x1FC8 "GREEK CAPITAL LETTER " [
    "EPSILON WITH VARIA,EPSILON WITH OXIA,ETA WITH VARIA,ETA WITH OXIA",
    "ETA WITH PROSGEGRAMMENI"],
   .listed 0x1FCD "GREEK PSILI AND " ["VARIA,OXIA,PERISPOMENI"],
   .listed 0x1FD0 "GREEK SMALL LETTER IOTA WITH " [
    "VRACHY,MACRON,DIALYTIKA AND VARIA,DIALYTIKA AND OXIA"],
   .listed 0x1FD6 "GREEK SMALL LETTER IOTA WITH " ["PERISPOMENI,DIALYTIKA AND PERISPOMENI"],
   .listed 0x1FD8 "GREEK CAPITAL LETTER IOTA WITH " ["VRACHY,MACRON,VARIA,OXIA"],
   .listed 0x1FDD "GREEK DASIA AND " ["VARIA,OXIA,PERISPOMENI"],
   .listed 0x1FE0 "GREEK SMALL LETTER " [
    "UPSILON WITH VRACHY,UPSILON WITH MACRON,UPSILON WITH DIALYTIKA AND VARIA",
    "UPSILON WITH DIALYTIKA AND OXIA,RHO WITH PSILI,RHO WITH DASIA,UPSILON WITH PERISPOMENI",
    "UPSILON WITH DIALYTIKA AND PERISPOMENI"],
   .listed 0x1FE8 "GREEK CAPITAL LETTER UPSILON WITH " ["VRACHY,MACRON,VARIA,OXIA"],
   .listed 0x1FEC "GREEK " [
    "CAPITAL LETTER RHO WITH DASIA,DIALYTIKA AND VARIA,DIALYTIKA AND OXIA,VARIA"],
   .listed 0x1FF2 "GREEK SMALL LETTER OMEGA WITH " [
    "VARIA AND YPOGEGRAMMENI,YPOGEGRAMMENI,OXIA AND YPOGEGRAMMENI"],
   .listed 0x1FF6 "GREEK SMALL LETTER OMEGA WITH " ["PERISPOMENI,PERISPOMENI AND YPOGEGRAMMENI"],
   .listed 0x1FF8 "GREEK CAPITAL LETTER " [
    "OMICRON WITH VARIA,OMICRON WITH OXIA,OMEGA WITH VARIA,OMEGA WITH OXIA",
    "OMEGA WITH PROSGEGRAMMENI"],
   .listed 0x1FFD "GREEK " ["OXIA,DASIA"]]

end ResourceQuery.Text
