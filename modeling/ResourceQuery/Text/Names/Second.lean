import ResourceQuery.Text.NameRun

/-!
Second names. Control characters have no names of their own, and these stand in for
them; other characters have a short form, or a name that corrects the first one.
-/

namespace ResourceQuery.Text

def secondNames : List NameRun :=
  [.listed 0x0 "" [
    "NULL,START OF HEADING,START OF TEXT,END OF TEXT,END OF TRANSMISSION,ENQUIRY,ACKNOWLEDGE",
    "ALERT,BACKSPACE,CHARACTER TABULATION,LINE FEED,LINE TABULATION,FORM FEED,CARRIAGE RETURN",
    "SHIFT OUT,SHIFT IN,DATA LINK ESCAPE,DEVICE CONTROL ONE,DEVICE CONTROL TWO",
    "DEVICE CONTROL THREE,DEVICE CONTROL FOUR,NEGATIVE ACKNOWLEDGE,SYNCHRONOUS IDLE",
    "END OF TRANSMISSION BLOCK,CANCEL,END OF MEDIUM,SUBSTITUTE,ESCAPE"],
   .listed 0x1C "INFORMATION SEPARATOR " ["FOUR,THREE,TWO,ONE"],
   .listed 0x7F "" [
    "DELETE,PADDING CHARACTER,HIGH OCTET PRESET,BREAK PERMITTED HERE,NO BREAK HERE,INDEX",
    "NEXT LINE,START OF SELECTED AREA,END OF SELECTED AREA,CHARACTER TABULATION SET",
    "CHARACTER TABULATION WITH JUSTIFICATION,LINE TABULATION SET,PARTIAL LINE FORWARD",
    "PARTIAL LINE BACKWARD,REVERSE LINE FEED,SINGLE SHIFT TWO,SINGLE SHIFT THREE",
    "DEVICE CONTROL STRING,PRIVATE USE ONE,PRIVATE USE TWO,SET TRANSMIT STATE",
    "CANCEL CHARACTER,MESSAGE WAITING,START OF GUARDED AREA,END OF GUARDED AREA",
    "START OF STRING,SINGLE GRAPHIC CHARACTER INTRODUCER,SINGLE CHARACTER INTRODUCER",
    "CONTROL SEQUENCE INTRODUCER,STRING TERMINATOR,OPERATING SYSTEM COMMAND,PRIVACY MESSAGE",
    "APPLICATION PROGRAM COMMAND"],
   .paired 0x1A2 "LATIN " ["GHA"],
   .listed 0x709 "" ["SYRIAC SUBLINEAR COLON SKEWED LEFT"],
   .listed 0xCDE "" ["KANNADA LETTER LLLA"],
   .listed 0xE9D "" ["LAO LETTER FO FON"],
   .listed 0xE9F "" ["LAO LETTER FO FAY"],
   .listed 0xEA3 "" ["LAO LETTER RO"],
   .listed 0xEA5 "" ["LAO LETTER LO"],
   .listed 0xFD0 "" ["TIBETAN MARK BKA- SHOG GI MGO RGYAN"],
   .listed 0x11EC "HANGUL JONGSEONG " [
    "YESIEUNG-KIYEOK,YESIEUNG-SSANGKIYEOK,SSANGYESIEUNG,YESIEUNG-KHIEUKH"],
   .listed 0x2118 "" ["WEIERSTRASS ELLIPTIC FUNCTION"],
   .listed 0x2448 "MICR " ["ON US SYMBOL,DASH SYMBOL"],
   .listed 0x2B7A "" ["LEFTWARDS TRIANGLE-HEADED ARROW WITH DOUBLE VERTICAL STROKE"],
   .listed 0x2B7C "" ["RIGHTWARDS TRIANGLE-HEADED ARROW WITH DOUBLE VERTICAL STROKE"],
   .listed 0xA015 "" ["YI SYLLABLE ITERATION MARK"],
   .listed 0xAA6E "" ["MYANMAR LETTER KHAMTI LLA"],
   .listed 0xFE18 "" ["PRESENTATION FORM FOR VERTICAL RIGHT WHITE LENTICULAR BRACKET"],
   .listed 0xFEFF "" ["BYTE ORDER MARK"],
   .listed 0x122D4 "CUNEIFORM SIGN NU11 " ["TENU,OVER NU11 BUR OVER BUR"],
   .listed 0x16E56 "MEDEFAIDRIN CAPITAL LETTER " ["H,NG"],
   .listed 0x16E76 "MEDEFAIDRIN SMALL LETTER " ["H,NG"],
   .listed 0x1B001 "" ["HENTAIGANA LETTER E-1"],
   .listed 0x1D0C5 "" ["BYZANTINE MUSICAL SYMBOL FTHORA SKLIRON CHROMA VASIS"],
   .listed 0x9 "" ["HORIZONTAL TABULATION,NEW LINE,VERTICAL TABULATION"],
   .listed 0xE "LOCKING-SHIFT " ["ONE,ZERO"],
   .listed 0x1C "" ["FILE SEPARATOR,GROUP SEPARATOR,RECORD SEPARATOR,UNIT SEPARATOR"],
   .listed 0x88 "" [
    "HORIZONTAL TABULATION SET,HORIZONTAL TABULATION WITH JUSTIFICATION",
    "VERTICAL TABULATION SET,PARTIAL LINE DOWN,PARTIAL LINE UP,REVERSE INDEX,SINGLE-SHIFT-2",
    "SINGLE-SHIFT-3"],
   .listed 0x91 "PRIVATE USE-" ["1,2"],
   .listed 0x96 "" ["START OF PROTECTED AREA,END OF PROTECTED AREA"],
   .listed 0xA "" ["END OF LINE"],
   .counted 0xFE00 "VS" 1 1 16,
   .counted 0xE0100 "VS" 1 17 240,
   .listed 0x0 "" [
    "NUL,SOH,STX,ETX,EOT,ENQ,ACK,BEL,BS,HT,LF,VT,FF,CR,SO,SI,DLE,DC1,DC2,DC3,DC4,NAK,SYN,ETB",
    "CAN,EOM,SUB,ESC,FS,GS,RS,US,SP"],
   .listed 0x7F "" [
    "DEL,PAD,HOP,BPH,NBH,IND,NEL,SSA,ESA,HTS,HTJ,VTS,PLD,PLU,RI,SS2,SS3,DCS,PU1,PU2,STS,CCH",
    "MW,SPA,EPA,SOS,SGC,SCI,CSI,ST,OSC,PM,APC,NBSP"],
   .listed 0xAD "" ["SHY"],
   .listed 0x34F "" ["CGJ"],
   .listed 0x61C "" ["ALM"],
   .listed 0x180B "" ["FVS1,FVS2,FVS3,MVS,FVS4"],
   .listed 0x200B "" ["ZWSP,ZWNJ,ZWJ,LRM,RLM"],
   .listed 0x202A "" ["LRE,RLE,PDF,LRO,RLO,NNBSP"],
   .listed 0x205F "" ["MMSP,WJ"],
   .listed 0x2066 "" ["LRI,RLI,FSI,PDI"],
   .listed 0xFEFF "" ["BOM"],
   .listed 0x9 "" ["TAB,NL"],
   .listed 0xFEFF "" ["ZWNBSP"],
   .listed 0xA "" ["EOL"]]

end ResourceQuery.Text
