import ResourceQuery.Text.NameRun

/-!
Names of the characters from 12000 to 16FF1: cuneiform signs, hieroglyphs and
the scripts beside them.
-/

namespace ResourceQuery.Text

def hieroglyphicNames : List NameRun :=
  [.listed 0x12000 "CUNEIFORM SIGN " [
    "A,A TIMES A,A TIMES BAD,A TIMES GAN2 TENU,A TIMES HA,A TIMES IGI,A TIMES LAGAR GUNU",
    "A TIMES MUSH,A TIMES SAG,A2,AB,AB TIMES ASH2,AB TIMES DUN3 GUNU,AB TIMES GAL",
    "AB TIMES GAN2 TENU,AB TIMES HA,AB TIMES IGI GUNU,AB TIMES IMIN,AB TIMES LAGAB",
    "AB TIMES SHESH,AB TIMES U PLUS U PLUS U,AB GUNU,AB2,AB2 TIMES BALAG,AB2 TIMES GAN2 TENU",
    "AB2 TIMES ME PLUS EN,AB2 TIMES SHA3,AB2 TIMES TAK4,AD,AK,AK TIMES ERIN2",
    "AK TIMES SHITA PLUS GISH,AL,AL TIMES AL,AL TIMES DIM2,AL TIMES GISH,AL TIMES HA",
    "AL TIMES KAD3,AL TIMES KI,AL TIMES SHE,AL TIMES USH,ALAN,ALEPH,AMAR,AMAR TIMES SHE,AN",
    "AN OVER AN,AN THREE TIMES,AN PLUS NAGA OPPOSING AN PLUS NAGA,AN PLUS NAGA SQUARED,ANSHE",
    "APIN,ARAD,ARAD TIMES KUR,ARKAB,ASAL2,ASH,ASH ZIDA TENU,ASH KABA TENU",
    "ASH OVER ASH TUG2 OVER TUG2 TUG2 OVER TUG2 PAP,ASH OVER ASH OVER ASH",
    "ASH OVER ASH OVER ASH CROSSING ASH OVER ASH OVER ASH,ASH2,ASHGAB,BA,BAD,BAG3,BAHAR2,BAL",
    "BAL OVER BAL,BALAG,BAR,BARA2,BI,BI TIMES A,BI TIMES GAR,BI TIMES IGI GUNU,BU",
    "BU OVER BU AB,BU OVER BU UN,BU CROSSING BU,BULUG,BULUG OVER BULUG,BUR,BUR2,DA,DAG"],
   .listed 0x12057 "CUNEIFORM SIGN DAG KISIM5 TIMES " [
    "A PLUS MASH,AMAR,BALAG,BI,GA,GA PLUS MASH,GI,GIR2,GUD,HA,IR,IR PLUS LU,KAK,LA,LU",
    "LU PLUS MASH2,LUM,NE,PAP PLUS PAP,SI,TAK4,U2 PLUS GIR2,USH"],
   .listed 0x1206E "CUNEIFORM SIGN " [
    "DAM,DAR,DARA3,DARA4,DI,DIB,DIM,DIM TIMES SHE,DIM2,DIN,DIN KASKAL U GUNU DISH,DISH,DU",
    "DU OVER DU,DU GUNU,DU SHESHIG,DUB,DUB TIMES ESH2,DUB2,DUG,DUGUD,DUH,DUN,DUN3,DUN3 GUNU",
    "DUN3 GUNU GUNU,DUN4,DUR2,E,E TIMES PAP,E OVER E NUN OVER NUN,E2",
    "E2 TIMES A PLUS HA PLUS DA,E2 TIMES GAR,E2 TIMES MI,E2 TIMES SAL,E2 TIMES SHE,E2 TIMES U",
    "EDIN,EGIR,EL,EN,EN TIMES GAN2,EN TIMES GAN2 TENU,EN TIMES ME,EN CROSSING EN",
    "EN OPPOSING EN,EN SQUARED,EREN,ERIN2,ESH2,EZEN"],
   .listed 0x120A2 "CUNEIFORM SIGN EZEN TIMES " [
    "A,A PLUS LAL,A PLUS LAL TIMES LAL,AN,BAD,DUN3 GUNU,DUN3 GUNU GUNU,HA,HA GUNU,IGI GUNU",
    "KASKAL,KASKAL SQUARED,KU3,LA,LAL TIMES LAL,LI,LU,U2,UD"],
   .listed 0x120B5 "CUNEIFORM SIGN " ["GA,GA GUNU,GA2"],
   .listed 0x120B8 "CUNEIFORM SIGN GA2 TIMES " [
    "A PLUS DA PLUS HA,A PLUS HA,A PLUS IGI,AB2 TENU PLUS TAB,AN,ASH,ASH2 PLUS GAL,BAD",
    "BAR PLUS RA,BUR,BUR PLUS RA,DA,DI,DIM TIMES SHE,DUB,EL,EL PLUS LA,EN,EN TIMES GAN2 TENU",
    "GAN2 TENU,GAR,GI,GI4,GI4 PLUS A,GIR2 PLUS SU,HA PLUS LU PLUS ESH2,HAL,HAL PLUS LA",
    "HI PLUS LI,HUB2,IGI GUNU,ISH PLUS HU PLUS ASH,KAK,KASKAL,KID,KID PLUS LAL,KU3 PLUS AN,LA",
    "ME PLUS EN,MI,NUN,NUN OVER NUN,PA,SAL,SAR,SHE,SHE PLUS TUR,SHID,SUM,TAK4,U,UD,UD PLUS DU"],
   .listed 0x120ED "CUNEIFORM SIGN " [
    "GA2 OVER GA2,GABA,GABA CROSSING GABA,GAD,GAD OVER GAD GAR OVER GAR,GAL",
    "GAL GAD OVER GAD GAR OVER GAR,GALAM,GAM,GAN,GAN2,GAN2 TENU,GAN2 OVER GAN2",
    "GAN2 CROSSING GAN2,GAR,GAR3,GASHAN,GESHTIN,GESHTIN TIMES KUR,GI,GI TIMES E,GI TIMES U",
    "GI CROSSING GI,GI4,GI4 OVER GI4,GI4 CROSSING GI4,GIDIM,GIR2,GIR2 GUNU,GIR3",
    "GIR3 TIMES A PLUS IGI,GIR3 TIMES GAN2 TENU,GIR3 TIMES IGI,GIR3 TIMES LU PLUS IGI",
    "GIR3 TIMES PA,GISAL,GISH,GISH CROSSING GISH,GISH TIMES BAD,GISH TIMES TAK4,GISH TENU,GU",
    "GU CROSSING GU,GU2,GU2 TIMES KAK,GU2 TIMES KAK TIMES IGI GUNU,GU2 TIMES NUN",
    "GU2 TIMES SAL PLUS TUG2,GU2 GUNU,GUD,GUD TIMES A PLUS KUR,GUD TIMES KUR",
    "GUD OVER GUD LUGAL,GUL,GUM,GUM TIMES SHE,GUR,GUR7,GURUN,GURUSH,HA,HA TENU,HA GUNU,HAL,HI",
    "HI TIMES ASH,HI TIMES ASH2,HI TIMES BAD,HI TIMES DISH,HI TIMES GAD,HI TIMES KIN",
    "HI TIMES NUN,HI TIMES SHE,HI TIMES U,HU,HUB2,HUB2 TIMES AN,HUB2 TIMES HAL",
    "HUB2 TIMES KASKAL,HUB2 TIMES LISH,HUB2 TIMES UD,HUL2,I,I A,IB,IDIM,IDIM OVER IDIM BUR",
    "IDIM OVER IDIM SQUARED,IG,IGI,IGI DIB,IGI RI,IGI OVER IGI SHIR OVER SHIR UD OVER UD",
    "IGI GUNU,IL,IL TIMES GAN2 TENU,IL2,IM,IM TIMES TAK4,IM CROSSING IM,IM OPPOSING IM",
    "IM SQUARED,IMIN,IN,IR,ISH,KA"],
   .listed 0x12158 "CUNEIFORM SIGN KA TIMES " [
    "A,AD,AD PLUS KU3,ASH2,BAD,BALAG,BAR,BI,ERIN2,ESH2,GA,GAL,GAN2 TENU,GAR",
    "GAR PLUS SHA3 PLUS A,GI,GIR2,GISH PLUS SAR,GISH CROSSING GISH,GU,GUR7,IGI,IM,KAK,KI,KID",
    "LI,LU,ME,ME PLUS DU,ME PLUS GI,ME PLUS TE,MI,MI PLUS NUNUZ,NE,NUN,PI,RU,SA,SAR,SHA,SHE",
    "SHID,SHU,SIG,SUHUR,TAR,U,U2,UD,UMUM TIMES PA,USH,ZI"],
   .listed 0x1218D "CUNEIFORM SIGN " [
    "KA2,KA2 CROSSING KA2,KAB,KAD2,KAD3,KAD4,KAD5,KAD5 OVER KAD5,KAK,KAK TIMES IGI GUNU,KAL",
    "KAL TIMES BAD,KAL CROSSING KAL,KAM2,KAM4,KASKAL,KASKAL LAGAB TIMES U OVER LAGAB TIMES U",
    "KASKAL OVER KASKAL LAGAB TIMES U OVER LAGAB TIMES U,KESH2,KI,KI TIMES BAD,KI TIMES U",
    "KI TIMES UD,KID,KIN,KISAL,KISH,KISIM5,KISIM5 OVER KISIM5,KU",
    "KU OVER HI TIMES ASH2 KU OVER HI TIMES ASH2,KU3,KU4,KU4 VARIANT FORM,KU7,KUL,KUL GUNU",
    "KUN,KUR,KUR OPPOSING KUR,KUSHU2,KWU318,LA,LAGAB"],
   .listed 0x121B9 "CUNEIFORM SIGN LAGAB TIMES " [
    "A,A PLUS DA PLUS HA,A PLUS GAR,A PLUS LAL,AL,AN,ASH ZIDA TENU,BAD,BI,DAR,EN,GA,GAR,GUD",
    "GUD PLUS GUD,HA,HAL,HI TIMES NUN,IGI GUNU,IM,IM PLUS HA,IM PLUS LU,KI,KIN,KU3,KUL",
    "KUL PLUS HI PLUS A,LAGAB,LISH,LU,LUL,ME,ME PLUS EN,MUSH,NE,SHE PLUS SUM",
    "SHITA PLUS GISH PLUS ERIN2,SHITA PLUS GISH TENU,SHU2,SHU2 PLUS SHU2,SUM,TAG,TAK4",
    "TE PLUS A PLUS SU PLUS NA,U,U PLUS A,U PLUS U PLUS U,U2 PLUS ASH,UD,USH"],
   .listed 0x121EB "CUNEIFORM SIGN " [
    "LAGAB SQUARED,LAGAR,LAGAR TIMES SHE,LAGAR TIMES SHE PLUS SUM,LAGAR GUNU",
    "LAGAR GUNU OVER LAGAR GUNU SHE,LAHSHU,LAL,LAL TIMES LAL,LAM,LAM TIMES KUR",
    "LAM TIMES KUR PLUS RU,LI,LIL,LIMMU2,LISH,LU,LU TIMES BAD,LU2"],
   .listed 0x121FE "CUNEIFORM SIGN LU2 TIMES " [
    "AL,BAD,ESH2,ESH2 TENU,GAN2 TENU,HI TIMES BAD,IM,KAD2,KAD3,KAD3 PLUS ASH,KI,LA PLUS ASH",
    "LAGAB,ME PLUS EN,NE,NU,SI PLUS ASH,SIK2 PLUS BU,TUG2"],
   .listed 0x12211 "CUNEIFORM SIGN " [
    "LU2 TENU,LU2 CROSSING LU2,LU2 OPPOSING LU2,LU2 SQUARED,LU2 SHESHIG,LU3,LUGAL",
    "LUGAL OVER LUGAL,LUGAL OPPOSING LUGAL,LUGAL SHESHIG,LUH,LUL,LUM,LUM OVER LUM",
    "LUM OVER LUM GAR OVER GAR,MA,MA TIMES TAK4,MA GUNU,MA2,MAH,MAR,MASH,MASH2,ME,MES,MI,MIN",
    "MU,MU OVER MU,MUG,MUG GUNU,MUNSUB,MURGU2,MUSH,MUSH TIMES A,MUSH TIMES KUR,MUSH TIMES ZA",
    "MUSH OVER MUSH,MUSH OVER MUSH TIMES A PLUS NA,MUSH CROSSING MUSH,MUSH3,MUSH3 TIMES A",
    "MUSH3 TIMES A PLUS DI,MUSH3 TIMES DI,MUSH3 GUNU,NA,NA2,NAGA,NAGA INVERTED",
    "NAGA TIMES SHU TENU,NAGA OPPOSING NAGA,NAGAR,NAM NUTILLU,NAM,NAM2,NE,NE TIMES A",
    "NE TIMES UD,NE SHESHIG,NI,NI TIMES E,NI2,NIM,NIM TIMES GAN2 TENU",
    "NIM TIMES GAR PLUS GAN2 TENU,NINDA2"],
   .listed 0x12253 "CUNEIFORM SIGN NINDA2 TIMES " [
    "AN,ASH,ASH PLUS ASH,GUD,ME PLUS GAN2 TENU,NE,NUN,SHE,SHE PLUS A AN,SHE PLUS ASH",
    "SHE PLUS ASH PLUS ASH,U2 PLUS ASH,USH"],
   .listed 0x12260 "CUNEIFORM SIGN " [
    "NISAG,NU,NU11,NUN,NUN LAGAR TIMES GAR,NUN LAGAR TIMES MASH,NUN LAGAR TIMES SAL",
    "NUN LAGAR TIMES SAL OVER NUN LAGAR TIMES SAL,NUN LAGAR TIMES USH,NUN TENU,NUN OVER NUN",
    "NUN CROSSING NUN,NUN CROSSING NUN LAGAR OVER LAGAR,NUNUZ"],
   .listed 0x1226E "CUNEIFORM SIGN NUNUZ AB2 TIMES " [
    "ASHGAB,BI,DUG,GUD,IGI GUNU,KAD3,LA,NE,SILA3,U2"],
   .listed 0x12278 "CUNEIFORM SIGN " [
    "NUNUZ KISIM5 TIMES BI,NUNUZ KISIM5 TIMES BI U,PA,PAD,PAN,PAP,PESH2,PI,PI TIMES A",
    "PI TIMES AB,PI TIMES BI,PI TIMES BU,PI TIMES E,PI TIMES I,PI TIMES IB,PI TIMES U",
    "PI TIMES U2,PI CROSSING PI,PIRIG,PIRIG TIMES KAL,PIRIG TIMES UD,PIRIG TIMES ZA",
    "PIRIG OPPOSING PIRIG,RA,RAB,RI,RU,SA,SAG NUTILLU,SAG"],
   .listed 0x12296 "CUNEIFORM SIGN SAG TIMES " [
    "A,DU,DUB,HA,KAK,KUR,LUM,MI,NUN,SAL,SHID,TAB,U2,UB,UM,UR,USH"],
   .listed 0x122A7 "CUNEIFORM SIGN " [
    "SAG OVER SAG,SAG GUNU,SAL,SAL LAGAB TIMES ASH2,SANGA2,SAR,SHA,SHA3,SHA3 TIMES A",
    "SHA3 TIMES BAD,SHA3 TIMES GISH,SHA3 TIMES NE,SHA3 TIMES SHU2,SHA3 TIMES TUR,SHA3 TIMES U",
    "SHA3 TIMES U PLUS A,SHA6,SHAB6,SHAR2,SHE,SHE HU,SHE OVER SHE GAD OVER GAD GAR OVER GAR",
    "SHE OVER SHE TAB OVER TAB GAR OVER GAR,SHEG9,SHEN,SHESH,SHESH2,SHESHLAM,SHID",
    "SHID TIMES A,SHID TIMES IM,SHIM"],
   .listed 0x122C7 "CUNEIFORM SIGN SHIM TIMES " [
    "A,BAL,BULUG,DIN,GAR,IGI,IGI GUNU,KUSHU2,LUL,MUG,SAL"],
   .listed 0x122D2 "CUNEIFORM SIGN " [
    "SHINIG,SHIR,SHIR TENU,SHIR OVER SHIR BUR OVER BUR,SHITA,SHU,SHU OVER INVERTED SHU,SHU2",
    "SHUBUR,SI,SI GUNU,SIG,SIG4,SIG4 OVER SIG4 SHU2,SIK2,SILA3,SU,SU OVER SU,SUD,SUD2,SUHUR",
    "SUM,SUMASH,SUR,SUR9,TA,TA ASTERISK,TA TIMES HI,TA TIMES MI,TA GUNU,TAB",
    "TAB OVER TAB NI OVER NI DISH OVER DISH,TAB SQUARED,TAG,TAG TIMES BI,TAG TIMES GUD",
    "TAG TIMES SHE,TAG TIMES SHU,TAG TIMES TUG2,TAG TIMES UD,TAK4,TAR,TE,TE GUNU,TI,TI TENU",
    "TIL,TIR,TIR TIMES TAK4,TIR OVER TIR,TIR OVER TIR GAD OVER GAD GAR OVER GAR,TU,TUG2,TUK",
    "TUM,TUR,TUR OVER TUR ZA OVER ZA,U,U GUD,U U U,U OVER U PA OVER PA GAR OVER GAR",
    "U OVER U SUR OVER SUR,U OVER U U REVERSED OVER U REVERSED,U2,UB,UD,UD KUSHU2",
    "UD TIMES BAD,UD TIMES MI,UD TIMES U PLUS U PLUS U,UD TIMES U PLUS U PLUS U GUNU,UD GUNU",
    "UD SHESHIG,UD SHESHIG TIMES BAD,UDUG,UM,UM TIMES LAGAB,UM TIMES ME PLUS DA,UM TIMES SHA3",
    "UM TIMES U,UMBIN,UMUM,UMUM TIMES KASKAL,UMUM TIMES PA,UN,UN GUNU,UR,UR CROSSING UR",
    "UR SHESHIG,UR2,UR2 TIMES A PLUS HA,UR2 TIMES A PLUS NA,UR2 TIMES AL,UR2 TIMES HA",
    "UR2 TIMES NUN,UR2 TIMES U2,UR2 TIMES U2 PLUS ASH,UR2 TIMES U2 PLUS BI,UR4,URI,URI3,URU"],
   .listed 0x12338 "CUNEIFORM SIGN URU TIMES " [
    "A,ASHGAB,BAR,DUN,GA,GAL,GAN2 TENU,GAR,GU,HA,IGI,IM,ISH,KI,LUM,MIN,PA,SHE,SIG4,TU",
    "U PLUS GUD,UD,URUDA"],
   .listed 0x1234F "CUNEIFORM SIGN " [
    "URUDA,URUDA TIMES U,USH,USH TIMES A,USH TIMES KU,USH TIMES KUR,USH TIMES TAK4,USHX,USH2",
    "USHUMX,UTUKI,UZ3,UZ3 TIMES KASKAL,UZU,ZA,ZA TENU,ZA SQUARED TIMES KUR,ZAG,ZAMX,ZE2,ZI",
    "ZI OVER ZI,ZI3,ZIB,ZIB KABA TENU,ZIG,ZIZ2,ZU,ZU5,ZU5 TIMES A,ZUBUR,ZUM,KAP ELAMITE",
    "AB TIMES NUN,AB2 TIMES A,AMAR TIMES KUG,DAG KISIM5 TIMES U2 PLUS MASH,DAG3,DISH PLUS SHU",
    "DUB TIMES SHE,EZEN TIMES GUD,EZEN TIMES SHE,GA2 TIMES AN PLUS KAK PLUS A,GA2 TIMES ASH2",
    "GE22,GIG,HUSH,KA TIMES ANSHE,KA TIMES ASH3,KA TIMES GISH,KA TIMES GUD",
    "KA TIMES HI TIMES ASH2,KA TIMES LUM,KA TIMES PA,KA TIMES SHUL,KA TIMES TU,KA TIMES UR2",
    "LAGAB TIMES GI,LU2 SHESHIG TIMES BAD,LU2 TIMES ESH2 PLUS LAL,LU2 TIMES SHU,MESH",
    "MUSH3 TIMES ZA,NA4,NIN,NIN9,NINDA2 TIMES BAL,NINDA2 TIMES GI,NU11 ROTATED NINETY DEGREES",
    "PESH2 ASTERISK,PIR2,SAG TIMES IGI GUNU,TI2,UM TIMES ME,U U"],
   .listed 0x12400 "CUNEIFORM NUMERIC SIGN " [
    "TWO ASH,THREE ASH,FOUR ASH,FIVE ASH,SIX ASH,SEVEN ASH,EIGHT ASH,NINE ASH,THREE DISH",
    "FOUR DISH,FIVE DISH,SIX DISH,SEVEN DISH,EIGHT DISH,NINE DISH,FOUR U,FIVE U,SIX U,SEVEN U",
    "EIGHT U,NINE U,ONE GESH2,TWO GESH2,THREE GESH2,FOUR GESH2,FIVE GESH2,SIX GESH2",
    "SEVEN GESH2,EIGHT GESH2,NINE GESH2,ONE GESHU,TWO GESHU,THREE GESHU,FOUR GESHU,FIVE GESHU",
    "TWO SHAR2,THREE SHAR2,THREE SHAR2 VARIANT FORM,FOUR SHAR2,FIVE SHAR2,SIX SHAR2",
    "SEVEN SHAR2,EIGHT SHAR2,NINE SHAR2,ONE SHARU,TWO SHARU,THREE SHARU",
    "THREE SHARU VARIANT FORM,FOUR SHARU,FIVE SHARU,SHAR2 TIMES GAL PLUS DISH",
    "SHAR2 TIMES GAL PLUS MIN,ONE BURU,TWO BURU,THREE BURU,THREE BURU VARIANT FORM,FOUR BURU",
    "FIVE BURU,THREE VARIANT FORM ESH16,THREE VARIANT FORM ESH21,FOUR VARIANT FORM LIMMU",
    "FOUR VARIANT FORM LIMMU4,FOUR VARIANT FORM LIMMU A,FOUR VARIANT FORM LIMMU B",
    "SIX VARIANT FORM ASH9,SEVEN VARIANT FORM IMIN3,SEVEN VARIANT FORM IMIN A",
    "SEVEN VARIANT FORM IMIN B,EIGHT VARIANT FORM USSU,EIGHT VARIANT FORM USSU3",
    "NINE VARIANT FORM ILIMMU,NINE VARIANT FORM ILIMMU3,NINE VARIANT FORM ILIMMU4",
    "NINE VARIANT FORM ILIMMU A,TWO ASH TENU,THREE ASH TENU,FOUR ASH TENU,FIVE ASH TENU",
    "SIX ASH TENU,ONE BAN2,TWO BAN2,THREE BAN2,FOUR BAN2,FOUR BAN2 VARIANT FORM,FIVE BAN2",
    "FIVE BAN2 VARIANT FORM,NIGIDAMIN,NIGIDAESH,ONE ESHE3,TWO ESHE3,ONE THIRD DISH",
    "TWO THIRDS DISH,FIVE SIXTHS DISH,ONE THIRD VARIANT FORM A,TWO THIRDS VARIANT FORM A",
    "ONE EIGHTH ASH,ONE QUARTER ASH,OLD ASSYRIAN ONE SIXTH,OLD ASSYRIAN ONE QUARTER",
    "ONE QUARTER GUR,ONE HALF GUR,ELAMITE ONE THIRD,ELAMITE TWO THIRDS,ELAMITE FORTY",
    "ELAMITE FIFTY,FOUR U VARIANT FORM,FIVE U VARIANT FORM,SIX U VARIANT FORM",
    "SEVEN U VARIANT FORM,EIGHT U VARIANT FORM,NINE U VARIANT FORM"],
   .listed 0x12470 "CUNEIFORM PUNCTUATION SIGN " [
    "OLD ASSYRIAN WORD DIVIDER,VERTICAL COLON,DIAGONAL COLON,DIAGONAL TRICOLON",
    "DIAGONAL QUADCOLON"],
   .listed 0x12480 "CUNEIFORM SIGN " [
    "AB TIMES NUN TENU,AB TIMES SHU2,AD TIMES ESH2,BAD TIMES DISH TENU,BAHAR2 TIMES AB2",
    "BAHAR2 TIMES NI,BAHAR2 TIMES ZA,BU OVER BU TIMES NA2,DA TIMES TAK4,DAG TIMES KUR",
    "DIM TIMES IGI,DIM TIMES U U U,DIM2 TIMES UD"],
   .listed 0x1248D "CUNEIFORM SIGN DUG TIMES " [
    "ANSHE,ASH,ASH AT LEFT,DIN,DUN,ERIN2,GA,GI,GIR2 GUNU,GISH,HA,HI,IGI GUNU,KASKAL,KUR",
    "KUSHU2,KUSHU2 PLUS KASKAL,LAK-020,LAM,LAM TIMES KUR,LUH PLUS GISH,MASH,MES,MI,NI,PI,SHE",
    "SI GUNU"],
   .listed 0x124A9 "CUNEIFORM SIGN " ["E2 TIMES KUR,E2 TIMES PAP,ERIN2 X,ESH2 CROSSING ESH2"],
   .listed 0x124AD "CUNEIFORM SIGN EZEN SHESHIG TIMES " ["ASH,HI,IGI GUNU,LA,LAL,ME,MES,SU"],
   .listed 0x124B5 "" ["CUNEIFORM SIGN EZEN TIMES SU"],
   .listed 0x124B6 "CUNEIFORM SIGN GA2 TIMES " [
    "BAHAR2,DIM GUNU,DUG TIMES IGI GUNU,DUG TIMES KASKAL,EREN,GA,GAR PLUS DI,GAR PLUS NE",
    "HA PLUS A,KUSHU2 PLUS KASKAL,LAM,LAM TIMES KUR,LUH,MUSH,NE,NE PLUS E2,NE PLUS GI,SHIM",
    "ZIZ2"],
   .listed 0x124C9 "CUNEIFORM SIGN " [
    "GABA ROTATED NINETY DEGREES,GESHTIN TIMES U,GISH TIMES GISH CROSSING GISH",
    "GU2 TIMES IGI GUNU,GUD PLUS GISH TIMES TAK4,HA TENU GUNU,HI TIMES ASH OVER HI TIMES ASH",
    "KA TIMES BU,KA TIMES KA,KA TIMES U U U,KA TIMES UR,LAGAB TIMES ZU OVER ZU"],
   .listed 0x124D5 "CUNEIFORM SIGN LAK-" [
    "003,021,025,030,050,051,062,079 OVER LAK-079 GUNU,080,081 OVER LAK-081,092,130,142,210",
    "219,220,225,228,238,265,266,343,347,348,383,384,390,441,449,449 TIMES GU,449 TIMES IGI",
    "449 TIMES PAP PLUS LU3,449 TIMES PAP PLUS PAP PLUS LU3,449 TIMES U2 PLUS BA,450,457,470",
    "483,490,492,493,495,550,608,617,617 TIMES ASH,617 TIMES BAD,617 TIMES DUN3 GUNU GUNU",
    "617 TIMES KU3,617 TIMES LA,617 TIMES TAR,617 TIMES TE,617 TIMES U2,617 TIMES UD",
    "617 TIMES URUDA,636,648"],
   .listed 0x1250E "CUNEIFORM SIGN LAK-648 TIMES " [
    "DUB,GA,IGI,IGI GUNU,NI,PAP PLUS PAP PLUS LU3,SHESH PLUS KI,UD,URUDA"],
   .listed 0x12517 "CUNEIFORM SIGN " [
    "LAK-724,LAK-749,LU2 GUNU TIMES ASH,LU2 TIMES DISH,LU2 TIMES HAL,LU2 TIMES PAP",
    "LU2 TIMES PAP PLUS PAP PLUS LU3,LU2 TIMES TAK4,MI PLUS ZA7,MUSH OVER MUSH TIMES GA",
    "MUSH OVER MUSH TIMES KAK"],
   .listed 0x12522 "CUNEIFORM SIGN NINDA2 TIMES " [
    "DIM GUNU,GISH,GUL,HI,KESH2,LAK-050,MASH,PAP PLUS PAP,U,U PLUS U,URUDA"],
   .listed 0x1252D "CUNEIFORM SIGN " [
    "SAG GUNU TIMES HA,SAG TIMES EN,SAG TIMES SHE AT LEFT,SAG TIMES TAK4,SHA6 TENU",
    "SHE OVER SHE,SHE PLUS HUB2,SHE PLUS NAM2,SHE PLUS SAR,SHU2 PLUS DUG TIMES NI",
    "SHU2 PLUS E2 TIMES AN,SI TIMES TAK4,TAK4 PLUS SAG,TUM TIMES GAN2 TENU",
    "TUM TIMES THREE DISH,UR2 INVERTED,UR2 TIMES UD,URU TIMES DARA3,URU TIMES LAK-668",
    "URU TIMES LU3,ZA7,ZU OVER ZU PLUS SAR,ZU5 TIMES THREE DISH TENU"],
   .listed 0x12F90 "CYPRO-MINOAN SIGN " ["CM001,CM002"],
   .counted 0x12F92 "CYPRO-MINOAN SIGN CM" 3 4 9,
   .listed 0x12F9B "CYPRO-MINOAN SIGN " ["CM012B,CM013,CM015,CM017,CM019,CM021"],
   .counted 0x12FA1 "CYPRO-MINOAN SIGN CM" 3 23 8,
   .counted 0x12FA9 "CYPRO-MINOAN SIGN CM" 3 33 9,
   .listed 0x12FB2 "CYPRO-MINOAN SIGN " ["CM044,CM046,CM047"],
   .counted 0x12FB5 "CYPRO-MINOAN SIGN CM" 3 49 8,
   .listed 0x12FBD "CYPRO-MINOAN SIGN " ["CM058,CM059,CM060,CM061,CM062,CM063,CM064"],
   .counted 0x12FC4 "CYPRO-MINOAN SIGN CM" 3 66 10,
   .listed 0x12FCE "CYPRO-MINOAN SIGN " ["CM075B,CM076"],
   .counted 0x12FD0 "CYPRO-MINOAN SIGN CM" 3 78 15,
   .counted 0x12FDF "CYPRO-MINOAN SIGN CM" 3 94 12,
   .listed 0x12FEB "CYPRO-MINOAN SIGN " ["CM107,CM108,CM109,CM110,CM112,CM114,CM301,CM302"],
   .listed 0x13000 "EGYPTIAN HIEROGLYPH " ["A001,A002,A003,A004,A005,A005A,A006,A006A,A006B"],
   .counted 0x13009 "EGYPTIAN HIEROGLYPH A" 3 7 8,
   .listed 0x13011 "EGYPTIAN HIEROGLYPH " ["A014A,A015,A016,A017,A017A"],
   .counted 0x13016 "EGYPTIAN HIEROGLYPH A" 3 18 15,
   .listed 0x13025 "" ["EGYPTIAN HIEROGLYPH A032A"],
   .counted 0x13026 "EGYPTIAN HIEROGLYPH A" 3 33 8,
   .listed 0x1302E "EGYPTIAN HIEROGLYPH " ["A040A,A041,A042,A042A,A043,A043A,A044,A045,A045A"],
   .counted 0x13037 "EGYPTIAN HIEROGLYPH A" 3 46 25,
   .listed 0x13050 "EGYPTIAN HIEROGLYPH " [
    "B001,B002,B003,B004,B005,B005A,B006,B007,B008,B009,C001,C002,C002A,C002B,C002C"],
   .counted 0x1305F "EGYPTIAN HIEROGLYPH C" 3 3 8,
   .listed 0x13067 "" ["EGYPTIAN HIEROGLYPH C010A"],
   .counted 0x13068 "EGYPTIAN HIEROGLYPH C" 3 11 14,
   .counted 0x13076 "EGYPTIAN HIEROGLYPH D" 3 1 8,
   .listed 0x1307E "" ["EGYPTIAN HIEROGLYPH D008A"],
   .counted 0x1307F "EGYPTIAN HIEROGLYPH D" 3 9 19,
   .listed 0x13092 "EGYPTIAN HIEROGLYPH " ["D027A,D028,D029,D030,D031,D031A,D032,D033,D034,D034A"],
   .counted 0x1309C "EGYPTIAN HIEROGLYPH D" 3 35 12,
   .listed 0x130A8 "EGYPTIAN HIEROGLYPH " [
    "D046A,D047,D048,D048A,D049,D050,D050A,D050B,D050C,D050D,D050E,D050F,D050G,D050H,D050I",
    "D051,D052,D052A,D053,D054,D054A"],
   .counted 0x130BD "EGYPTIAN HIEROGLYPH D" 3 55 13,
   .listed 0x130CA "EGYPTIAN HIEROGLYPH " ["D067A,D067B,D067C,D067D,D067E,D067F,D067G,D067H"],
   .counted 0x130D2 "EGYPTIAN HIEROGLYPH E" 3 1 8,
   .listed 0x130DA "EGYPTIAN HIEROGLYPH " [
    "E008A,E009,E009A,E010,E011,E012,E013,E014,E015,E016,E016A,E017,E017A,E018,E019,E020",
    "E020A"],
   .counted 0x130EB "EGYPTIAN HIEROGLYPH E" 3 21 8,
   .listed 0x130F3 "EGYPTIAN HIEROGLYPH " [
    "E028A,E029,E030,E031,E032,E033,E034,E034A,E036,E037,E038,F001,F001A"],
   .counted 0x13100 "EGYPTIAN HIEROGLYPH F" 3 2 12,
   .listed 0x1310C "" ["EGYPTIAN HIEROGLYPH F013A"],
   .counted 0x1310D "EGYPTIAN HIEROGLYPH F" 3 14 8,
   .listed 0x13115 "" ["EGYPTIAN HIEROGLYPH F021A"],
   .counted 0x13116 "EGYPTIAN HIEROGLYPH F" 3 22 10,
   .listed 0x13120 "EGYPTIAN HIEROGLYPH " [
    "F031A,F032,F033,F034,F035,F036,F037,F037A,F038,F038A,F039,F040,F041,F042,F043,F044,F045",
    "F045A,F046,F046A,F047,F047A,F048,F049,F050,F051,F051A,F051B,F051C,F052,F053,G001,G002",
    "G003,G004,G005,G006,G006A,G007,G007A,G007B,G008,G009,G010,G011,G011A"],
   .counted 0x1314E "EGYPTIAN HIEROGLYPH G" 3 12 9,
   .listed 0x13157 "EGYPTIAN HIEROGLYPH " ["G020A,G021,G022,G023,G024,G025,G026,G026A"],
   .counted 0x1315F "EGYPTIAN HIEROGLYPH G" 3 27 10,
   .listed 0x13169 "EGYPTIAN HIEROGLYPH " [
    "G036A,G037,G037A,G038,G039,G040,G041,G042,G043,G043A,G044,G045,G045A"],
   .counted 0x13176 "EGYPTIAN HIEROGLYPH G" 3 46 9,
   .listed 0x1317F "EGYPTIAN HIEROGLYPH " [
    "H001,H002,H003,H004,H005,H006,H006A,H007,H008,I001,I002,I003,I004,I005,I005A,I006,I007",
    "I008,I009,I009A,I010,I010A,I011,I011A,I012,I013,I014,I015"],
   .counted 0x1319B "EGYPTIAN HIEROGLYPH K" 3 1 8,
   .listed 0x131A3 "EGYPTIAN HIEROGLYPH " [
    "L001,L002,L002A,L003,L004,L005,L006,L006A,L007,L008,M001,M001A,M001B,M002,M003,M003A",
    "M004,M005,M006,M007,M008,M009,M010,M010A,M011,M012,M012A,M012B,M012C,M012D,M012E,M012F",
    "M012G,M012H,M013,M014,M015,M015A,M016,M016A,M017,M017A,M018,M019,M020,M021,M022,M022A",
    "M023,M024,M024A,M025,M026,M027,M028,M028A,M029,M030,M031,M031A,M032,M033,M033A,M033B",
    "M034,M035,M036,M037,M038,M039,M040,M040A,M041,M042,M043,M044"],
   .counted 0x131EF "EGYPTIAN HIEROGLYPH N" 3 1 18,
   .listed 0x13201 "EGYPTIAN HIEROGLYPH " ["N018A,N018B,N019,N020,N021,N022,N023,N024,N025,N025A"],
   .counted 0x1320B "EGYPTIAN HIEROGLYPH N" 3 26 8,
   .listed 0x13213 "EGYPTIAN HIEROGLYPH " [
    "N033A,N034,N034A,N035,N035A,N036,N037,N037A,N038,N039,N040,N041,N042,NL001,NL002,NL003",
    "NL004,NL005,NL005A"],
   .counted 0x13226 "EGYPTIAN HIEROGLYPH NL" 3 6 12,
   .listed 0x13232 "EGYPTIAN HIEROGLYPH " ["NL017A,NL018,NL019,NL020"],
   .counted 0x13236 "EGYPTIAN HIEROGLYPH NU" 3 1 10,
   .listed 0x13240 "EGYPTIAN HIEROGLYPH " [
    "NU010A,NU011,NU011A,NU012,NU013,NU014,NU015,NU016,NU017,NU018,NU018A,NU019,NU020,NU021",
    "NU022,NU022A,O001,O001A,O002,O003,O004,O005,O005A,O006,O006A,O006B,O006C,O006D,O006E",
    "O006F,O007,O008,O009,O010,O010A,O010B,O010C"],
   .counted 0x13265 "EGYPTIAN HIEROGLYPH O" 3 11 9,
   .listed 0x1326E "EGYPTIAN HIEROGLYPH " [
    "O019A,O020,O020A,O021,O022,O023,O024,O024A,O025,O025A,O026,O027,O028,O029,O029A,O030",
    "O030A,O031,O032,O033,O033A,O034,O035,O036,O036A,O036B,O036C,O036D"],
   .counted 0x1328A "EGYPTIAN HIEROGLYPH O" 3 37 14,
   .listed 0x13298 "EGYPTIAN HIEROGLYPH " ["O050A,O050B,O051,P001,P001A,P002,P003,P003A"],
   .counted 0x132A0 "EGYPTIAN HIEROGLYPH P" 3 4 8,
   .listed 0x132A8 "EGYPTIAN HIEROGLYPH " [
    "Q001,Q002,Q003,Q004,Q005,Q006,Q007,R001,R002,R002A,R003,R003A,R003B,R004,R005,R006,R007",
    "R008,R009,R010,R010A,R011,R012,R013,R014,R015,R016,R016A"],
   .counted 0x132C4 "EGYPTIAN HIEROGLYPH R" 3 17 13,
   .listed 0x132D1 "EGYPTIAN HIEROGLYPH " ["S001,S002,S002A,S003,S004,S005,S006,S006A"],
   .counted 0x132D9 "EGYPTIAN HIEROGLYPH S" 3 7 8,
   .listed 0x132E1 "EGYPTIAN HIEROGLYPH " ["S014A,S014B,S015,S016,S017,S017A"],
   .counted 0x132E7 "EGYPTIAN HIEROGLYPH S" 3 18 9,
   .listed 0x132F0 "EGYPTIAN HIEROGLYPH " ["S026A,S026B"],
   .counted 0x132F2 "EGYPTIAN HIEROGLYPH S" 3 27 9,
   .listed 0x132FB "" ["EGYPTIAN HIEROGLYPH S035A"],
   .counted 0x132FC "EGYPTIAN HIEROGLYPH S" 3 36 11,
   .listed 0x13307 "EGYPTIAN HIEROGLYPH " [
    "T001,T002,T003,T003A,T004,T005,T006,T007,T007A,T008,T008A,T009,T009A,T010,T011,T011A",
    "T012,T013,T014,T015,T016,T016A"],
   .counted 0x1331D "EGYPTIAN HIEROGLYPH T" 3 17 16,
   .listed 0x1332D "EGYPTIAN HIEROGLYPH " [
    "T032A,T033,T033A,T034,T035,T036,U001,U002,U003,U004,U005,U006,U006A,U006B"],
   .counted 0x1333B "EGYPTIAN HIEROGLYPH U" 3 7 17,
   .listed 0x1334C "EGYPTIAN HIEROGLYPH " [
    "U023A,U024,U025,U026,U027,U028,U029,U029A,U030,U031,U032,U032A"],
   .counted 0x13358 "EGYPTIAN HIEROGLYPH U" 3 33 10,
   .listed 0x13362 "EGYPTIAN HIEROGLYPH " [
    "V001,V001A,V001B,V001C,V001D,V001E,V001F,V001G,V001H,V001I,V002,V002A,V003,V004,V005",
    "V006,V007,V007A,V007B,V008,V009,V010,V011,V011A,V011B,V011C,V012,V012A,V012B"],
   .counted 0x1337F "EGYPTIAN HIEROGLYPH V" 3 13 8,
   .listed 0x13387 "EGYPTIAN HIEROGLYPH " [
    "V020A,V020B,V020C,V020D,V020E,V020F,V020G,V020H,V020I,V020J,V020K,V020L,V021,V022,V023",
    "V023A,V024,V025,V026,V027,V028,V028A,V029,V029A,V030,V030A,V031,V031A,V032,V033,V033A",
    "V034,V035,V036,V037,V037A,V038,V039,V040,V040A,W001,W002,W003,W003A,W004,W005,W006,W007",
    "W008,W009,W009A,W010,W010A,W011,W012,W013,W014,W014A,W015,W016,W017,W017A,W018,W018A",
    "W019,W020,W021,W022,W023,W024,W024A,W025,X001,X002,X003,X004,X004A,X004B,X005,X006,X006A",
    "X007,X008,X008A,Y001,Y001A,Y002,Y003,Y004,Y005,Y006,Y007,Y008,Z001,Z002,Z002A,Z002B",
    "Z002C,Z002D,Z003,Z003A,Z003B,Z004,Z004A,Z005,Z005A"],
   .counted 0x133F1 "EGYPTIAN HIEROGLYPH Z" 3 6 10,
   .listed 0x133FB "EGYPTIAN HIEROGLYPH " [
    "Z015A,Z015B,Z015C,Z015D,Z015E,Z015F,Z015G,Z015H,Z015I,Z016,Z016A,Z016B,Z016C,Z016D,Z016E",
    "Z016F,Z016G,Z016H,AA001,AA002,AA003,AA004,AA005,AA006,AA007,AA007A,AA007B"],
   .counted 0x13416 "EGYPTIAN HIEROGLYPH AA" 3 8 25,
   .listed 0x13430 "EGYPTIAN HIEROGLYPH " [
    "VERTICAL JOINER,HORIZONTAL JOINER,INSERT AT TOP START,INSERT AT BOTTOM START",
    "INSERT AT TOP END,INSERT AT BOTTOM END,OVERLAY MIDDLE,BEGIN SEGMENT,END SEGMENT"],
   .counted 0x14400 "ANATOLIAN HIEROGLYPH A" 3 1 10,
   .listed 0x1440A "" ["ANATOLIAN HIEROGLYPH A010A"],
   .counted 0x1440B "ANATOLIAN HIEROGLYPH A" 3 11 16,
   .listed 0x1441B "" ["ANATOLIAN HIEROGLYPH A026A"],
   .counted 0x1441C "ANATOLIAN HIEROGLYPH A" 3 27 13,
   .listed 0x14429 "ANATOLIAN HIEROGLYPH " [
    "A039A,A040,A041,A041A,A042,A043,A044,A045,A045A,A046,A046A,A046B"],
   .counted 0x14435 "ANATOLIAN HIEROGLYPH A" 3 47 20,
   .listed 0x14449 "ANATOLIAN HIEROGLYPH " ["A066A,A066B,A066C"],
   .counted 0x1444C "ANATOLIAN HIEROGLYPH A" 3 67 31,
   .listed 0x1446B "ANATOLIAN HIEROGLYPH " [
    "A097A,A098,A098A,A099,A100,A100A,A101,A101A,A102,A102A,A103,A104,A104A,A104B,A104C,A105",
    "A105A,A105B,A106,A107,A107A,A107B,A107C,A108,A109,A110,A110A,A110B,A111,A112,A113,A114",
    "A115,A115A"],
   .counted 0x1448D "ANATOLIAN HIEROGLYPH A" 1 116 10,
   .listed 0x14497 "" ["ANATOLIAN HIEROGLYPH A125A"],
   .counted 0x14498 "ANATOLIAN HIEROGLYPH A" 1 126 10,
   .listed 0x144A2 "" ["ANATOLIAN HIEROGLYPH A135A"],
   .counted 0x144A3 "ANATOLIAN HIEROGLYPH A" 1 136 67,
   .listed 0x144E6 "ANATOLIAN HIEROGLYPH " [
    "A202A,A202B,A203,A204,A205,A206,A207,A207A,A208,A209,A209A,A210,A211,A212,A213,A214,A215",
    "A215A,A216,A216A"],
   .counted 0x144FA "ANATOLIAN HIEROGLYPH A" 1 217 11,
   .listed 0x14505 "" ["ANATOLIAN HIEROGLYPH A227A"],
   .counted 0x14506 "ANATOLIAN HIEROGLYPH A" 1 228 40,
   .listed 0x1452E "" ["ANATOLIAN HIEROGLYPH A267A"],
   .counted 0x1452F "ANATOLIAN HIEROGLYPH A" 1 268 22,
   .listed 0x14545 "ANATOLIAN HIEROGLYPH " [
    "A289A,A290,A291,A292,A293,A294,A294A,A295,A296,A297,A298,A299,A299A"],
   .counted 0x14552 "ANATOLIAN HIEROGLYPH A" 1 300 10,
   .listed 0x1455C "" ["ANATOLIAN HIEROGLYPH A309A"],
   .counted 0x1455D "ANATOLIAN HIEROGLYPH A" 1 310 20,
   .listed 0x14571 "ANATOLIAN HIEROGLYPH " [
    "A329A,A330,A331,A332A,A332B,A332C,A333,A334,A335,A336,A336A,A336B,A336C"],
   .counted 0x1457E "ANATOLIAN HIEROGLYPH A" 1 337 23,
   .listed 0x14595 "ANATOLIAN HIEROGLYPH " [
    "A359A,A360,A361,A362,A363,A364,A364A,A365,A366,A367,A368,A368A,A369,A370,A371,A371A"],
   .counted 0x145A5 "ANATOLIAN HIEROGLYPH A" 1 372 10,
   .listed 0x145AF "ANATOLIAN HIEROGLYPH " [
    "A381A,A382,A383 RA OR RI,A383A,A384,A385,A386,A386A,A387,A388,A389,A390,A391,A392",
    "A393 EIGHT"],
   .counted 0x145BE "ANATOLIAN HIEROGLYPH A" 1 394 16,
   .listed 0x145CE "ANATOLIAN HIEROGLYPH " ["A410 BEGIN LOGOGRAM MARK,A410A END LOGOGRAM MARK"],
   .counted 0x145D0 "ANATOLIAN HIEROGLYPH A" 1 411 40,
   .listed 0x145F8 "ANATOLIAN HIEROGLYPH " ["A450A,A451,A452,A453,A454,A455,A456,A457,A457A"],
   .counted 0x14601 "ANATOLIAN HIEROGLYPH A" 1 458 40,
   .counted 0x14629 "ANATOLIAN HIEROGLYPH A" 1 501 30,
   .listed 0x16800 "BAMUM LETTER PHASE-A " [
    "NGKUE MFON,GBIEE FON,PON MFON PIPAEMGBIEE,PON MFON PIPAEMBA,NAA MFON,SHUENSHUET",
    "TITA MFON,NZA MFON,SHINDA PA NJI,PON PA NJI PIPAEMGBIEE,PON PA NJI PIPAEMBA,MAEMBGBIEE",
    "TU MAEMBA,NGANGU,MAEMVEUX,MANSUAE,MVEUAENGAM,SEUNYAM,NTOQPEN,KEUKEUTNDA,NKINDI,SUU",
    "NGKUENZEUM,LAPAQ,LET KUT,NTAP MFAA,MAEKEUP,PASHAE,GHEUAERAE,PAMSHAE,MON NGGEUAET",
    "NZUN MEUT,U YUQ NAE,GHEUAEGHEUAE,NTAP NTAA,SISA,MGBASA,MEUNJOMNDEUQ,MOOMPUQ,KAFA",
    "PA LEERAEWA,NDA LEERAEWA,PET,MAEMKPEN,NIKA,PUP,TUAEP,LUAEP,SONJAM,TEUTEUWEN,MAENYI,KET",
    "NDAANGGEUAET,KUOQ,MOOMEUT,SHUM,LOMMAE,FIRI,ROM,KPOQ,SOQ,MAP PIEET,SHIRAE,NTAP",
    "SHOQ NSHUT YUM,NYIT MONGKEUAEQ,PAARAE,NKAARAE,UNKNOWN,NGGEN,MAESI,NJAM,MBANYI,NYET",
    "TEUAEN,SOT,PAAM,NSHIEE,MAEM,NYI,KAQ,NSHA,VEE,LU,NEN,NAQ,MBAQ"],
   .listed 0x16857 "BAMUM LETTER PHASE-B " [
    "NSHUET,TU MAEMGBIEE,SIEE,SET TU,LOM NTEUM,MBA MAELEE,KIEEM,YEURAE,MBAARAE,KAM,PEESHI",
    "YAFU LEERAEWA,LAM NSHUT NYAM,NTIEE SHEUOQ,NDU NJAA,GHEUGHEUAEM,PIT,TU NSIEE,SHET NJAQ",
    "SHEUAEQTU,MFON TEUAEQ,MBIT MBAAKET,NYI NTEUM,KEUPUQ,GHEUGHEN,KEUYEUX,LAANAE,PARUM,VEUM",
    "NGKINDI MVOP,NGGEU MBU,WUAET,SAKEUAE,TAAM,MEUQ,NGGUOQ,NGGUOQ LARGE,MFIYAQ,SUE,MBEURI",
    "MONTIEEN,NYAEMAE,PUNGAAM,MEUT NGGEET,FEUX,MBUOQ,FEE,KEUAEM,MA NJEUAENA,MA NJUQA,LET",
    "NGGAAM,NSEN,MA,KIQ,NGOM"],
   .listed 0x1688F "BAMUM LETTER PHASE-C " [
    "NGKUE MAEMBA,NZA,YUM,WANGKUOQ,NGGEN,NDEUAEREE,NGKAQ,GHARAE,MBEEKEET,GBAYI",
    "NYIR MKPARAQ MEUN,NTU MBIT,MBEUM,PIRIEEN,NDOMBU,MBAA CABBAGE-TREE,KEUSHEUAEP,GHAP,KEUKAQ",
    "YU MUOMAE,NZEUM,MBUE,NSEUAEN,MBIT,YEUQ,KPARAQ,KAA,SEUX,NDIDA,TAASHAE,NJUEQ,TITA YUE",
    "SUAET,NGGUAEN NYAM,VEUX,NANSANAQ,MA KEUAERI,NTAA,NGGUON,LAP,MBIRIEEN,MGBASAQ,NTEUNGBA",
    "TEUTEUX,NGGUM,FUE,NDEUT,NSA,NSHAQ,BUNG,VEUAEPEN,MBERAE,RU,NJAEM,LAM,TITUAEP,NSUOT NGOM",
    "NJEEEE,KET,NGGU,MAESI,MBUAEM,LU,KUT,NJAM,NGOM,WUP,NGGUEET,NSOM,NTEN,KUOP NKAARAE,NSUN",
    "NDAM,MA NSIEE,YAA,NDAP,SHUEQ,SETFON,MBI,MAEMBA,MBANYI,KEUSEUX,MBEUX,KEUM,MBAA PICKET",
    "YUWOQ,NJEUX,MIEE,MUAE,SHIQ,KEN LAW,KEN FATIGUE,NGAQ,NAQ,LIQ,PIN,PEN,TET"],
   .listed 0x168F1 "BAMUM LETTER PHASE-D " [
    "MBUO,WAP,NJI,MFON,NJIEE,LIEE,NJEUT,NSHEE,NGGAAMAE,NYAM,WUAEN,NGKUN,SHEE,NGKAP,KEUAETMEUN",
    "TEUT,SHEUAE,NJAP,SUE,KET,YAEMMAE,KUOM,SAP,MFEUT,NDEUX,MALEERI,MEUT,SEUAEQ,YEN,NJEUAEM",
    "KEUOT MBUAE,NGKEURI,TU,GHAA,NGKYEE,FEUFEUAET,NDEE,MGBOFUM,LEUAEP,NDON,MONI,MGBEUN,PUUT",
    "MGBIEE,MFO,LUM,NSIEEP,MBAA,KWAET,NYET,TEUAEN,SOT,YUWOQ,KEUM,RAEM,TEEEE,NGKEUAEQ,MFEUAE",
    "NSIEET,KEUP,PIP,PEUTAE,NYUE,LET,NGGAAM,MFIEE,NGGWAEN,YUOM,PAP,YUOP,NDAM,NTEUM,SUAE,KUN",
    "NGGEUX,NGKIEE,TUOT,MEUN,KUQ,NSUM,TEUN,MAENJET,NGGAP,LEUM,NGGUOM,NSHUT,NJUEQ,GHEUAE,KU",
    "REN OLD,TAE,TOQ,NYI,RII,LEEEE,MEEEE,M,SUU,MU,SHII,SHEUX,KYEE,NU,SHU,NTEE,PEE,NI,SHOQ,PUQ",
    "MVOP,LOQ,REN MUCH,TI,NTUU,MBAA SEVEN,SAQ,FAA"],
   .listed 0x16966 "BAMUM LETTER PHASE-E " [
    "NDAP,TOON,MBEUM,LAP,VOM,LOON,PAA,SOM,RAQ,NSHUOP,NDUN,PUAE,TAM,NGKA,KPEUX,WUO,SEE",
    "NGGEUAET,PAAM,TOO,KUOP,LOM,NSHIEE,NGOP,MAEM,NGKEUX,NGOQ,NSHUE,RIMGBA,NJEUX,PEEM,SAA",
    "NGGURAE,MGBA,GHEUX,NGKEUAEM,NJAEMLI,MAP,LOOT,NGGEEEE,NDIQ,TAEN NTEUM,SET,PUM",
    "NDAA SOFTNESS,NGGUAESHAE NYAM,YIEE,GHEUN,TUAE,YEUAE,PO,TUMAE,KEUAE,SUAEN,TEUAEQ,VEUAE",
    "WEUX,LAAM,PU,TAAQ,GHAAMAE,NGEUREUT,SHEUAEQ,MGBEN,MBEE,NZAQ,NKOM,GBET,TUM,KUET,YAP",
    "NYI CLEAVER,YIT,MFEUQ,NDIAQ,PIEEQ,YUEQ,LEUAEM,FUE,GBEUX,NGKUP,KET,MAE,NGKAAMI,GHET,FA",
    "NTUM,PEUT,YEUM,NGGEUAE,NYI BETWEEN,NZUQ,POON,MIEE,FUET,NAE,MUAE,GHEUAE,FU I,MVI,PUAQ",
    "NGKUM,KUT,PIET,NTAP,YEUAET,NGGUP,PA PEOPLE,FU CALL,FOM,NJEE,A,TOQ,O,I,LAQ,PA PLURAL,TAA",
    "TAQ,NDAA MY HOUSE,SHIQ,YEUX,NGUAE,YUAEN,YOQ SWIMMING,YOQ COVER,YUQ,YUN,KEUX,PEUX",
    "NJEE EPOCH,PUE,WUE,FEE,VEE,LU,MI,REUX,RAE,NGUAET,NGA,SHO,SHOQ,FU REMEDY,NA,PI,LOQ,KO,MEN",
    "MA,MAQ,TEU,KI,MON,TEN,FAQ,GHOM"],
   .listed 0x16A03 "BAMUM LETTER PHASE-F " [
    "KA,U,KU,EE,REE,TAE,NYI,LA,RII,RIEE,MEEEE,TAA,NDAA,NJAEM,M,SUU,SHII,SI,SEUX,KYEE,KET,NUAE",
    "NU,NJUAE,YOQ,SHU,YA,NSHA,PEUX,NTEE,WUE,PEE,RU,NI,REUX,KEN,NGKWAEN,NGGA,SHO,PUAE,FOM,WA",
    "LI,LOQ,KO,MBEN,REN,MA,MO,MBAA,TET,KPA,SAMBA,VUEQ"],
   .listed 0x16A40 "MRO LETTER " [
    "TA,NGI,YO,MIM,BA,DA,A,PHI,KHAI,HAO,DAI,CHU,KEAAE,OL,MAEM,NIN,PA,OO,O,RO,SHI,THEA,EA,WA,E",
    "KO,LAN,LA,HAI,RI,TEK"],
   .listed 0x16A60 "MRO DIGIT " digits,
   .listed 0x16A6E "MRO " ["DANDA,DOUBLE DANDA"],
   .listed 0x16A70 "TANGSA LETTER " [
    "OZ,OC,OQ,OX,AZ,AC,AQ,AX,VZ,VC,VQ,VX,EZ,EC,EQ,EX,IZ,IC,IQ,IX,UZ,UC,UQ,UX,AWZ,AWC,AWQ,AWX",
    "UIZ,UIC,UIQ,UIX,FINAL NG,LONG UEX,SHORT UEZ,SHORT AWX,UEC,UEZ,UEQ,UEX,UIUZ,UIUC,UIUQ",
    "UIUX,MZ,MC,MQ,MX,KA,KHA,GA,NGA,SA,YA,WA,PA,NYA,PHA,BA,MA,NA,HA,LA,HTA,TA,DA,RA,NHA,SHA",
    "CA,TSA,GHA,HTTA,THA,XA,FA,DHA,CHA,ZA"],
   .listed 0x16AC0 "TANGSA DIGIT " digits,
   .listed 0x16AD0 "BASSA VAH LETTER " [
    "ENNI,KA,SE,FA,MBE,YIE,GAH,DHII,KPAH,JO,HWAH,WA,ZO,GBU,DO,CE,UWU,TO,BA,VU,YEIN,PA,WADDA,A",
    "O,OO,U,EE,E,I"],
   .listed 0x16AF0 "BASSA VAH COMBINING " [
    "HIGH TONE,LOW TONE,MID TONE,LOW-MID TONE,HIGH-LOW TONE"],
   .listed 0x16AF5 "" ["BASSA VAH FULL STOP"],
   .listed 0x16B00 "PAHAWH HMONG VOWEL " [
    "KEEB,KEEV,KIB,KIV,KAUB,KAUV,KUB,KUV,KEB,KEV,KAIB,KAIV,KOOB,KOOV,KAWB,KAWV,KUAB,KUAV,KOB",
    "KOV,KIAB,KIAV,KAB,KAV,KWB,KWV,KAAB,KAAV"],
   .listed 0x16B1C "PAHAWH HMONG CONSONANT " [
    "VAU,NTSAU,LAU,HAU,NLAU,RAU,NKAU,QHAU,YAU,HLAU,MAU,CHAU,NCHAU,HNAU,PLHAU,NTHAU,NAU,AU,XAU",
    "CAU"],
   .listed 0x16B30 "PAHAWH HMONG MARK CIM " ["TUB,SO,KES,KHAV,SUAM,HOM,TAUM"],
   .listed 0x16B37 "PAHAWH HMONG SIGN " [
    "VOS THOM,VOS TSHAB CEEB,CIM CHEEM,VOS THIAB,VOS FEEM,XYEEM NTXIV,XYEEM RHO,XYEEM TOV",
    "XYEEM FAIB,VOS SEEV,MEEJ SUAB,VOS NRUA,IB YAM,XAUS,CIM TSOV ROG"],
   .listed 0x16B50 "PAHAWH HMONG DIGIT " digits,
   .listed 0x16B5B "PAHAWH HMONG NUMBER " [
    "TENS,HUNDREDS,TEN THOUSANDS,MILLIONS,HUNDRED MILLIONS,TEN BILLIONS,TRILLIONS"],
   .listed 0x16B63 "PAHAWH HMONG SIGN " [
    "VOS LUB,XYOO,HLI,THIRD-STAGE HLI,ZWJ THAJ,HNUB,NQIG,XIAB,NTUJ,AV,TXHEEJ CEEV,MEEJ TSEEB",
    "TAU,LOS,MUS,CIM HAIS LUS NTOG NTOG,CIM CUAM TSHOOJ,CIM TXWV,CIM TXWV CHWV,CIM PUB DAWB",
    "CIM NRES TOS"],
   .listed 0x16B7D "PAHAWH HMONG CLAN SIGN " [
    "TSHEEJ,YEEG,LIS,LAUJ,XYOOJ,KOO,HAWJ,MUAS,THOJ,TSAB,PHAB,KHAB,HAM,VAJ,FAJ,YAJ,TSWB,KWM",
    "VWJ"],
   .listed 0x16E40 "MEDEFAIDRIN CAPITAL LETTER " [
    "M,S,V,W,ATIU,Z,KP,P,T,G,F,I,K,A,J,E,B,C,U,YU,L,Q,HP,NY,X,D,OE,N,R,O,AI,Y"],
   .listed 0x16E60 "MEDEFAIDRIN SMALL LETTER " [
    "M,S,V,W,ATIU,Z,KP,P,T,G,F,I,K,A,J,E,B,C,U,YU,L,Q,HP,NY,X,D,OE,N,R,O,AI,Y"],
   .listed 0x16E80 "MEDEFAIDRIN DIGIT " digits,
   .listed 0x16E8A "MEDEFAIDRIN NUMBER " [
    "TEN,ELEVEN,TWELVE,THIRTEEN,FOURTEEN,FIFTEEN,SIXTEEN,SEVENTEEN,EIGHTEEN,NINETEEN"],
   .listed 0x16E94 "MEDEFAIDRIN " [
    "DIGIT ONE ALTERNATE FORM,DIGIT TWO ALTERNATE FORM,DIGIT THREE ALTERNATE FORM,COMMA",
    "FULL STOP,SYMBOL AIVA,EXCLAMATION OH"],
   .listed 0x16F00 "MIAO LETTER " [
    "PA,BA,YI PA,PLA,MA,MHA,ARCHAIC MA,FA,VA,VFA,TA,DA,YI TTA,YI TA,TTA,DDA,NA,NHA,YI NNA",
    "ARCHAIC NA,NNA,NNHA,LA,LYA,LHA,LHYA,TLHA,DLHA,TLHYA,DLHYA,KA,GA,YI KA,QA,QGA,NGA,NGHA",
    "ARCHAIC NGA,HA,XA,GHA,GHHA,TSSA,DZZA,NYA,NYHA,TSHA,DZHA,YI TSHA,YI DZHA,REFORMED TSHA",
    "SHA,SSA,ZHA,ZSHA,TSA,DZA,YI TSA,SA,ZA,ZSA,ZZA,ZZSA,ARCHAIC ZZA,ZZYA,ZZSYA,WA,AH,HHA,BRI",
    "SYI,DZYI,TE,TSE,RTE"],
   .listed 0x16F4F "MIAO " [
    "SIGN CONSONANT MODIFIER BAR,LETTER NASALIZATION,SIGN ASPIRATION,SIGN REFORMED VOICING",
    "SIGN REFORMED ASPIRATION"],
   .listed 0x16F54 "MIAO VOWEL SIGN " [
    "A,AA,AHH,AN,ANG,O,OO,WO,W,E,EN,ENG,OEY,I,IA,IAN,IANG,IO,IE,II,IU,ING,U,UA,UAN,UANG,UU",
    "UEI,UNG,Y,YI,AE,AEE,ERR,ROUNDED ERR,ER,ROUNDED ER,AI,EI,AU,OU,N,NG,UOG,YUI,OG,OER,VW,IG",
    "EA,IONG,UI"],
   .listed 0x16F8F "MIAO TONE " ["RIGHT,TOP RIGHT,ABOVE,BELOW"],
   .listed 0x16F93 "MIAO LETTER TONE-" ["2,3,4,5,6,7,8"],
   .listed 0x16F9A "MIAO LETTER REFORMED TONE-" ["1,2,4,5,6,8"],
   .listed 0x16FE0 "" [
    "TANGUT ITERATION MARK,NUSHU ITERATION MARK,OLD CHINESE HOOK MARK",
    "OLD CHINESE ITERATION MARK,KHITAN SMALL SCRIPT FILLER"],
   .listed 0x16FF0 "VIETNAMESE ALTERNATE READING MARK " ["CA,NHAY"]]

end ResourceQuery.Text
