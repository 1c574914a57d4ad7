import ResourceQuery.Text.NameRun

/-!
Names of the characters from 0900 to 109F: the scripts of India, of Tibet and of
the south-east of Asia.
-/

namespace ResourceQuery.Text

def indicNames : List NameRun :=
  [.listed 0x900 "DEVANAGARI SIGN " ["INVERTED CANDRABINDU,CANDRABINDU,ANUSVARA,VISARGA"],
   .listed 0x904 "DEVANAGARI LETTER " [
    "SHORT A,A,AA,I,II,U,UU,VOCALIC R,VOCALIC L,CANDRA E,SHORT E,E,AI,CANDRA O,SHORT O,O,AU",
    "KA,KHA,GA,GHA,NGA,CA,CHA,JA,JHA,NYA,TTA,TTHA,DDA,DDHA,NNA,TA,THA,DA,DHA,NA,NNNA,PA,PHA",
    "BA,BHA,MA,YA,RA,RRA,LA,LLA,LLLA,VA,SHA,SSA,SA,HA"],
   .listed 0x93A "DEVANAGARI " ["VOWEL SIGN OE,VOWEL SIGN OOE,SIGN NUKTA,SIGN AVAGRAHA"],
   .listed 0x93E "DEVANAGARI VOWEL SIGN " [
    "AA,I,II,U,UU,VOCALIC R,VOCALIC RR,CANDRA E,SHORT E,E,AI,CANDRA O,SHORT O,O,AU"],
   .listed 0x94D "DEVANAGARI " [
    "SIGN VIRAMA,VOWEL SIGN PRISHTHAMATRA E,VOWEL SIGN AW,OM,STRESS SIGN UDATTA",
    "STRESS SIGN ANUDATTA,GRAVE ACCENT,ACUTE ACCENT,VOWEL SIGN CANDRA LONG E,VOWEL SIGN UE",
    "VOWEL SIGN UUE,LETTER QA,LETTER KHHA,LETTER GHHA,LETTER ZA,LETTER DDDHA,LETTER RHA",
    "LETTER FA,LETTER YYA,LETTER VOCALIC RR,LETTER VOCALIC LL,VOWEL SIGN VOCALIC L",
    "VOWEL SIGN VOCALIC LL,DANDA,DOUBLE DANDA"],
   .listed 0x966 "DEVANAGARI DIGIT " digits,
   .listed 0x970 "DEVANAGARI " ["ABBREVIATION SIGN,SIGN HIGH SPACING DOT"],
   .listed 0x972 "DEVANAGARI LETTER " [
    "CANDRA A,OE,OOE,AW,UE,UUE,MARWARI DDA,ZHA,HEAVY YA,GGA,JJA,GLOTTAL STOP,DDDA,BBA"],
   .listed 0x980 "BENGALI " ["ANJI,SIGN CANDRABINDU,SIGN ANUSVARA,SIGN VISARGA"],
   .listed 0x985 "BENGALI LETTER " ["A,AA,I,II,U,UU,VOCALIC R,VOCALIC L"],
   .listed 0x98F "BENGALI LETTER " ["E,AI"],
   .listed 0x993 "BENGALI LETTER " [
    "O,AU,KA,KHA,GA,GHA,NGA,CA,CHA,JA,JHA,NYA,TTA,TTHA,DDA,DDHA,NNA,TA,THA,DA,DHA,NA"],
   .listed 0x9AA "BENGALI LETTER " ["PA,PHA,BA,BHA,MA,YA,RA"],
   .listed 0x9B2 "" ["BENGALI LETTER LA"],
   .listed 0x9B6 "BENGALI LETTER " ["SHA,SSA,SA,HA"],
   .listed 0x9BC "BENGALI SIGN " ["NUKTA,AVAGRAHA"],
   .listed 0x9BE "BENGALI VOWEL SIGN " ["AA,I,II,U,UU,VOCALIC R,VOCALIC RR"],
   .listed 0x9C7 "BENGALI VOWEL SIGN " ["E,AI"],
   .listed 0x9CB "BENGALI " ["VOWEL SIGN O,VOWEL SIGN AU,SIGN VIRAMA,LETTER KHANDA TA"],
   .listed 0x9D7 "" ["BENGALI AU LENGTH MARK"],
   .listed 0x9DC "BENGALI LETTER " ["RRA,RHA"],
   .listed 0x9DF "BENGALI " [
    "LETTER YYA,LETTER VOCALIC RR,LETTER VOCALIC LL,VOWEL SIGN VOCALIC L",
    "VOWEL SIGN VOCALIC LL"],
   .listed 0x9E6 "BENGALI DIGIT " digits,
   .listed 0x9F0 "BENGALI " [
    "LETTER RA WITH MIDDLE DIAGONAL,LETTER RA WITH LOWER DIAGONAL,RUPEE MARK,RUPEE SIGN"],
   .listed 0x9F4 "BENGALI CURRENCY NUMERATOR " ["ONE,TWO,THREE,FOUR,ONE LESS THAN THE DENOMINATOR"],
   .listed 0x9F9 "BENGALI " [
    "CURRENCY DENOMINATOR SIXTEEN,ISSHAR,GANDA MARK,LETTER VEDIC ANUSVARA,ABBREVIATION SIGN",
    "SANDHI MARK"],
   .listed 0xA01 "GURMUKHI SIGN " ["ADAK BINDI,BINDI,VISARGA"],
   .listed 0xA05 "GURMUKHI LETTER " ["A,AA,I,II,U,UU"],
   .listed 0xA0F "GURMUKHI LETTER " ["EE,AI"],
   .listed 0xA13 "GURMUKHI LETTER " [
    "OO,AU,KA,KHA,GA,GHA,NGA,CA,CHA,JA,JHA,NYA,TTA,TTHA,DDA,DDHA,NNA,TA,THA,DA,DHA,NA"],
   .listed 0xA2A "GURMUKHI LETTER " ["PA,PHA,BA,BHA,MA,YA,RA"],
   .listed 0xA32 "GURMUKHI LETTER " ["LA,LLA"],
   .listed 0xA35 "GURMUKHI LETTER " ["VA,SHA"],
   .listed 0xA38 "GURMUKHI LETTER " ["SA,HA"],
   .listed 0xA3C "" ["GURMUKHI SIGN NUKTA"],
   .listed 0xA3E "GURMUKHI VOWEL SIGN " ["AA,I,II,U,UU"],
   .listed 0xA47 "GURMUKHI VOWEL SIGN " ["EE,AI"],
   .listed 0xA4B "GURMUKHI " ["VOWEL SIGN OO,VOWEL SIGN AU,SIGN VIRAMA"],
   .listed 0xA51 "" ["GURMUKHI SIGN UDAAT"],
   .listed 0xA59 "GURMUKHI LETTER " ["KHHA,GHHA,ZA,RRA"],
   .listed 0xA5E "" ["GURMUKHI LETTER FA"],
   .listed 0xA66 "GURMUKHI DIGIT " digits,
   .listed 0xA70 "GURMUKHI " ["TIPPI,ADDAK,IRI,URA,EK ONKAR,SIGN YAKASH,ABBREVIATION SIGN"],
   .listed 0xA81 "GUJARATI SIGN " ["CANDRABINDU,ANUSVARA,VISARGA"],
   .listed 0xA85 "GUJARATI LETTER " ["A,AA,I,II,U,UU,VOCALIC R,VOCALIC L"],
   .listed 0xA8D "" ["GUJARATI VOWEL CANDRA E"],
   .listed 0xA8F "GUJARATI " ["LETTER E,LETTER AI,VOWEL CANDRA O"],
   .listed 0xA93 "GUJARATI LETTER " [
    "O,AU,KA,KHA,GA,GHA,NGA,CA,CHA,JA,JHA,NYA,TTA,TTHA,DDA,DDHA,NNA,TA,THA,DA,DHA,NA"],
   .listed 0xAAA "GUJARATI LETTER " ["PA,PHA,BA,BHA,MA,YA,RA"],
   .listed 0xAB2 "GUJARATI LETTER " ["LA,LLA"],
   .listed 0xAB5 "GUJARATI LETTER " ["VA,SHA,SSA,SA,HA"],
   .listed 0xABC "GUJARATI SIGN " ["NUKTA,AVAGRAHA"],
   .listed 0xABE "GUJARATI VOWEL SIGN " ["AA,I,II,U,UU,VOCALIC R,VOCALIC RR,CANDRA E"],
   .listed 0xAC7 "GUJARATI VOWEL SIGN " ["E,AI,CANDRA O"],
   .listed 0xACB "GUJARATI " ["VOWEL SIGN O,VOWEL SIGN AU,SIGN VIRAMA"],
   .listed 0xAD0 "" ["GUJARATI OM"],
   .listed 0xAE0 "GUJARATI " [
    "LETTER VOCALIC RR,LETTER VOCALIC LL,VOWEL SIGN VOCALIC L,VOWEL SIGN VOCALIC LL"],
   .listed 0xAE6 "GUJARATI DIGIT " digits,
   .listed 0xAF0 "GUJARATI " ["ABBREVIATION SIGN,RUPEE SIGN"],
   .listed 0xAF9 "GUJARATI " [
    "LETTER ZHA,SIGN SUKUN,SIGN SHADDA,SIGN MADDAH,SIGN THREE-DOT NUKTA ABOVE",
    "SIGN CIRCLE NUKTA ABOVE,SIGN TWO-CIRCLE NUKTA ABOVE"],
   .listed 0xB01 "ORIYA SIGN " ["CANDRABINDU,ANUSVARA,VISARGA"],
   .listed 0xB05 "ORIYA LETTER " ["A,AA,I,II,U,UU,VOCALIC R,VOCALIC L"],
   .listed 0xB0F "ORIYA LETTER " ["E,AI"],
   .listed 0xB13 "ORIYA LETTER " [
    "O,AU,KA,KHA,GA,GHA,NGA,CA,CHA,JA,JHA,NYA,TTA,TTHA,DDA,DDHA,NNA,TA,THA,DA,DHA,NA"],
   .listed 0xB2A "ORIYA LETTER " ["PA,PHA,BA,BHA,MA,YA,RA"],
   .listed 0xB32 "ORIYA LETTER " ["LA,LLA"],
   .listed 0xB35 "ORIYA LETTER " ["VA,SHA,SSA,SA,HA"],
   .listed 0xB3C "ORIYA SIGN " ["NUKTA,AVAGRAHA"],
   .listed 0xB3E "ORIYA VOWEL SIGN " ["AA,I,II,U,UU,VOCALIC R,VOCALIC RR"],
   .listed 0xB47 "ORIYA VOWEL SIGN " ["E,AI"],
   .listed 0xB4B "ORIYA " ["VOWEL SIGN O,VOWEL SIGN AU,SIGN VIRAMA"],
   .listed 0xB55 "ORIYA " ["SIGN OVERLINE,AI LENGTH MARK,AU LENGTH MARK"],
   .listed 0xB5C "ORIYA LETTER " ["RRA,RHA"],
   .listed 0xB5F "ORIYA LETTER " ["YYA,VOCALIC RR,VOCALIC LL"],
   .listed 0xB62 "ORIYA VOWEL SIGN VOCALIC " ["L,LL"],
   .listed 0xB66 "ORIYA DIGIT " digits,
   .listed 0xB70 "ORIYA " ["ISSHAR,LETTER WA"],
   .listed 0xB72 "ORIYA FRACTION " [
    "ONE QUARTER,ONE HALF,THREE QUARTERS,ONE SIXTEENTH,ONE EIGHTH,THREE SIXTEENTHS"],
   .listed 0xB82 "TAMIL SIGN " ["ANUSVARA,VISARGA"],
   .listed 0xB85 "TAMIL LETTER " ["A,AA,I,II,U,UU"],
   .listed 0xB8E "TAMIL LETTER " ["E,EE,AI"],
   .listed 0xB92 "TAMIL LETTER " ["O,OO,AU,KA"],
   .listed 0xB99 "TAMIL LETTER " ["NGA,CA"],
   .listed 0xB9C "" ["TAMIL LETTER JA"],
   .listed 0xB9E "TAMIL LETTER " ["NYA,TTA"],
   .listed 0xBA3 "TAMIL LETTER " ["NNA,TA"],
   .listed 0xBA8 "TAMIL LETTER " ["NA,NNNA,PA"],
   .listed 0xBAE "TAMIL LETTER " ["MA,YA,RA,RRA,LA,LLA,LLLA,VA,SHA,SSA,SA,HA"],
   .listed 0xBBE "TAMIL VOWEL SIGN " ["AA,I,II,U,UU"],
   .listed 0xBC6 "TAMIL VOWEL SIGN " ["E,EE,AI"],
   .listed 0xBCA "TAMIL " ["VOWEL SIGN O,VOWEL SIGN OO,VOWEL SIGN AU,SIGN VIRAMA"],
   .listed 0xBD0 "" ["TAMIL OM"],
   .listed 0xBD7 "" ["TAMIL AU LENGTH MARK"],
   .listed 0xBE6 "TAMIL DIGIT " digits,
   .listed 0xBF0 "TAMIL " [
    "NUMBER TEN,NUMBER ONE HUNDRED,NUMBER ONE THOUSAND,DAY SIGN,MONTH SIGN,YEAR SIGN",
    "DEBIT SIGN,CREDIT SIGN,AS ABOVE SIGN,RUPEE SIGN,NUMBER SIGN"],
   .listed 0xC00 "TELUGU SIGN " [
    "COMBINING CANDRABINDU ABOVE,CANDRABINDU,ANUSVARA,VISARGA,COMBINING ANUSVARA ABOVE"],
   .listed 0xC05 "TELUGU LETTER " ["A,AA,I,II,U,UU,VOCALIC R,VOCALIC L"],
   .listed 0xC0E "TELUGU LETTER " ["E,EE,AI"],
   .listed 0xC12 "TELUGU LETTER " [
    "O,OO,AU,KA,KHA,GA,GHA,NGA,CA,CHA,JA,JHA,NYA,TTA,TTHA,DDA,DDHA,NNA,TA,THA,DA,DHA,NA"],
   .listed 0xC2A "TELUGU LETTER " ["PA,PHA,BA,BHA,MA,YA,RA,RRA,LA,LLA,LLLA,VA,SHA,SSA,SA,HA"],
   .listed 0xC3C "TELUGU SIGN " ["NUKTA,AVAGRAHA"],
   .listed 0xC3E "TELUGU VOWEL SIGN " ["AA,I,II,U,UU,VOCALIC R,VOCALIC RR"],
   .listed 0xC46 "TELUGU VOWEL SIGN " ["E,EE,AI"],
   .listed 0xC4A "TELUGU " ["VOWEL SIGN O,VOWEL SIGN OO,VOWEL SIGN AU,SIGN VIRAMA"],
   .listed 0xC55 "TELUGU " ["LENGTH MARK,AI LENGTH MARK"],
   .listed 0xC58 "TELUGU LETTER " ["TSA,DZA,RRRA"],
   .listed 0xC5D "" ["TELUGU LETTER NAKAARA POLLU"],
   .listed 0xC60 "TELUGU LETTER VOCALIC " ["RR,LL"],
   .listed 0xC62 "TELUGU VOWEL SIGN VOCALIC " ["L,LL"],
   .listed 0xC66 "TELUGU DIGIT " digits,
   .listed 0xC77 "" ["TELUGU SIGN SIDDHAM"],
   .listed 0xC78 "TELUGU FRACTION DIGIT " [
    "ZERO FOR ODD POWERS OF FOUR,ONE FOR ODD POWERS OF FOUR,TWO FOR ODD POWERS OF FOUR",
    "THREE FOR ODD POWERS OF FOUR,ONE FOR EVEN POWERS OF FOUR,TWO FOR EVEN POWERS OF FOUR",
    "THREE FOR EVEN POWERS OF FOUR"],
   .listed 0xC7F "" ["TELUGU SIGN TUUMU"],
   .listed 0xC80 "KANNADA SIGN " ["SPACING CANDRABINDU,CANDRABINDU,ANUSVARA,VISARGA,SIDDHAM"],
   .listed 0xC85 "KANNADA LETTER " ["A,AA,I,II,U,UU,VOCALIC R,VOCALIC L"],
   .listed 0xC8E "KANNADA LETTER " ["E,EE,AI"],
   .listed 0xC92 "KANNADA LETTER " [
    "O,OO,AU,KA,KHA,GA,GHA,NGA,CA,CHA,JA,JHA,NYA,TTA,TTHA,DDA,DDHA,NNA,TA,THA,DA,DHA,NA"],
   .listed 0xCAA "KANNADA LETTER " ["PA,PHA,BA,BHA,MA,YA,RA,RRA,LA,LLA"],
   .listed 0xCB5 "KANNADA LETTER " ["VA,SHA,SSA,SA,HA"],
   .listed 0xCBC "KANNADA SIGN " ["NUKTA,AVAGRAHA"],
   .listed 0xCBE "KANNADA VOWEL SIGN " ["AA,I,II,U,UU,VOCALIC R,VOCALIC RR"],
   .listed 0xCC6 "KANNADA VOWEL SIGN " ["E,EE,AI"],
   .listed 0xCCA "KANNADA " ["VOWEL SIGN O,VOWEL SIGN OO,VOWEL SIGN AU,SIGN VIRAMA"],
   .listed 0xCD5 "KANNADA " ["LENGTH MARK,AI LENGTH MARK"],
   .listed 0xCDD "KANNADA LETTER " ["NAKAARA POLLU,FA"],
   .listed 0xCE0 "KANNADA " [
    "LETTER VOCALIC RR,LETTER VOCALIC LL,VOWEL SIGN VOCALIC L,VOWEL SIGN VOCALIC LL"],
   .listed 0xCE6 "KANNADA DIGIT " digits,
   .listed 0xCF1 "KANNADA SIGN " ["JIHVAMULIYA,UPADHMANIYA"],
   .listed 0xD00 "MALAYALAM SIGN " ["COMBINING ANUSVARA ABOVE,CANDRABINDU,ANUSVARA,VISARGA"],
   .listed 0xD04 "MALAYALAM LETTER " ["VEDIC ANUSVARA,A,AA,I,II,U,UU,VOCALIC R,VOCALIC L"],
   .listed 0xD0E "MALAYALAM LETTER " ["E,EE,AI"],
   .listed 0xD12 "MALAYALAM LETTER " [
    "O,OO,AU,KA,KHA,GA,GHA,NGA,CA,CHA,JA,JHA,NYA,TTA,TTHA,DDA,DDHA,NNA,TA,THA,DA,DHA,NA,NNNA",
    "PA,PHA,BA,BHA,MA,YA,RA,RRA,LA,LLA,LLLA,VA,SHA,SSA,SA,HA,TTTA"],
   .listed 0xD3B "MALAYALAM SIGN " ["VERTICAL BAR VIRAMA,CIRCULAR VIRAMA,AVAGRAHA"],
   .listed 0xD3E "MALAYALAM VOWEL SIGN " ["AA,I,II,U,UU,VOCALIC R,VOCALIC RR"],
   .listed 0xD46 "MALAYALAM VOWEL SIGN " ["E,EE,AI"],
   .listed 0xD4A "MALAYALAM " [
    "VOWEL SIGN O,VOWEL SIGN OO,VOWEL SIGN AU,SIGN VIRAMA,LETTER DOT REPH,SIGN PARA"],
   .listed 0xD54 "MALAYALAM " [
    "LETTER CHILLU M,LETTER CHILLU Y,LETTER CHILLU LLL,AU LENGTH MARK",
    "FRACTION ONE ONE-HUNDRED-AND-SIXTIETH,FRACTION ONE FORTIETH,FRACTION THREE EIGHTIETHS",
    "FRACTION ONE TWENTIETH,FRACTION ONE TENTH,FRACTION THREE TWENTIETHS,FRACTION ONE FIFTH",
    "LETTER ARCHAIC II,LETTER VOCALIC RR,LETTER VOCALIC LL,VOWEL SIGN VOCALIC L",
    "VOWEL SIGN VOCALIC LL"],
   .listed 0xD66 "MALAYALAM DIGIT " digits,
   .listed 0xD70 "MALAYALAM " [
    "NUMBER TEN,NUMBER ONE HUNDRED,NUMBER ONE THOUSAND,FRACTION ONE QUARTER,FRACTION ONE HALF",
    "FRACTION THREE QUARTERS,FRACTION ONE SIXTEENTH,FRACTION ONE EIGHTH",
    "FRACTION THREE SIXTEENTHS,DATE MARK"],
   .listed 0xD7A "MALAYALAM LETTER CHILLU " ["NN,N,RR,L,LL,K"],
   .listed 0xD81 "SINHALA SIGN " ["CANDRABINDU,ANUSVARAYA,VISARGAYA"],
   .listed 0xD85 "SINHALA LETTER " [
    "AYANNA,AAYANNA,AEYANNA,AEEYANNA,IYANNA,IIYANNA,UYANNA,UUYANNA,IRUYANNA,IRUUYANNA",
    "ILUYANNA,ILUUYANNA,EYANNA,EEYANNA,AIYANNA,OYANNA,OOYANNA,AUYANNA"],
   .listed 0xD9A "SINHALA LETTER " [
    "ALPAPRAANA KAYANNA,MAHAAPRAANA KAYANNA,ALPAPRAANA GAYANNA,MAHAAPRAANA GAYANNA",
    "KANTAJA NAASIKYAYA,SANYAKA GAYANNA,ALPAPRAANA CAYANNA,MAHAAPRAANA CAYANNA",
    "ALPAPRAANA JAYANNA,MAHAAPRAANA JAYANNA,TAALUJA NAASIKYAYA,TAALUJA SANYOOGA NAAKSIKYAYA",
    "SANYAKA JAYANNA,ALPAPRAANA TTAYANNA,MAHAAPRAANA TTAYANNA,ALPAPRAANA DDAYANNA",
    "MAHAAPRAANA DDAYANNA,MUURDHAJA NAYANNA,SANYAKA DDAYANNA,ALPAPRAANA TAYANNA",
    "MAHAAPRAANA TAYANNA,ALPAPRAANA DAYANNA,MAHAAPRAANA DAYANNA,DANTAJA NAYANNA"],
   .listed 0xDB3 "SINHALA LETTER " [
    "SANYAKA DAYANNA,ALPAPRAANA PAYANNA,MAHAAPRAANA PAYANNA,ALPAPRAANA BAYANNA",
    "MAHAAPRAANA BAYANNA,MAYANNA,AMBA BAYANNA,YAYANNA,RAYANNA"],
   .listed 0xDBD "" ["SINHALA LETTER DANTAJA LAYANNA"],
   .listed 0xDC0 "SINHALA LETTER " [
    "VAYANNA,TAALUJA SAYANNA,MUURDHAJA SAYANNA,DANTAJA SAYANNA,HAYANNA,MUURDHAJA LAYANNA",
    "FAYANNA"],
   .listed 0xDCA "" ["SINHALA SIGN AL-LAKUNA"],
   .listed 0xDCF "SINHALA VOWEL SIGN " [
    "AELA-PILLA,KETTI AEDA-PILLA,DIGA AEDA-PILLA,KETTI IS-PILLA,DIGA IS-PILLA,KETTI PAA-PILLA"],
   .listed 0xDD6 "" ["SINHALA VOWEL SIGN DIGA PAA-PILLA"],
   .listed 0xDD8 "SINHALA VOWEL SIGN " [
    "GAETTA-PILLA,KOMBUVA,DIGA KOMBUVA,KOMBU DEKA,KOMBUVA HAA AELA-PILLA",
    "KOMBUVA HAA DIGA AELA-PILLA,KOMBUVA HAA GAYANUKITTA,GAYANUKITTA"],
   .listed 0xDE6 "SINHALA LITH DIGIT " digits,
   .listed 0xDF2 "SINHALA " [
    "VOWEL SIGN DIGA GAETTA-PILLA,VOWEL SIGN DIGA GAYANUKITTA,PUNCTUATION KUNDDALIYA"],
   .listed 0xE01 "THAI CHARACTER " [
    "KO KAI,KHO KHAI,KHO KHUAT,KHO KHWAI,KHO KHON,KHO RAKHANG,NGO NGU,CHO CHAN,CHO CHING",
    "CHO CHANG,SO SO,CHO CHOE,YO YING,DO CHADA,TO PATAK,THO THAN,THO NANGMONTHO,THO PHUTHAO",
    "NO NEN,DO DEK,TO TAO,THO THUNG,THO THAHAN,THO THONG,NO NU,BO BAIMAI,PO PLA,PHO PHUNG",
    "FO FA,PHO PHAN,FO FAN,PHO SAMPHAO,MO MA,YO YAK,RO RUA,RU,LO LING,LU,WO WAEN,SO SALA",
    "SO RUSI,SO SUA,HO HIP,LO CHULA,O ANG,HO NOKHUK,PAIYANNOI,SARA A,MAI HAN-AKAT,SARA AA",
    "SARA AM,SARA I,SARA II,SARA UE,SARA UEE,SARA U,SARA UU,PHINTHU"],
   .listed 0xE3F "" ["THAI CURRENCY SYMBOL BAHT"],
   .listed 0xE40 "THAI CHARACTER " [
    "SARA E,SARA AE,SARA O,SARA AI MAIMUAN,SARA AI MAIMALAI,LAKKHANGYAO,MAIYAMOK,MAITAIKHU",
    "MAI EK,MAI THO,MAI TRI,MAI CHATTAWA,THANTHAKHAT,NIKHAHIT,YAMAKKAN,FONGMAN"],
   .listed 0xE50 "THAI DIGIT " digits,
   .listed 0xE5A "THAI CHARACTER " ["ANGKHANKHU,KHOMUT"],
   .listed 0xE81 "LAO LETTER " ["KO,KHO SUNG"],
   .listed 0xE84 "" ["LAO LETTER KHO TAM"],
   .listed 0xE86 "LAO LETTER " ["PALI GHA,NGO,CO,PALI CHA,SO TAM"],
   .listed 0xE8C "LAO LETTER " [
    "PALI JHA,NYO,PALI NYA,PALI TTA,PALI TTHA,PALI DDA,PALI DDHA,PALI NNA,DO,TO,THO SUNG",
    "THO TAM,PALI DHA,NO,BO,PO,PHO SUNG,FO TAM,PHO TAM,FO SUNG,PALI BHA,MO,YO,LO LING"],
   .listed 0xEA5 "" ["LAO LETTER LO LOOT"],
   .listed 0xEA7 "LAO LETTER " ["WO,SANSKRIT SHA,SANSKRIT SSA,SO SUNG,HO SUNG,PALI LLA,O,HO TAM"],
   .listed 0xEAF "" ["LAO ELLIPSIS"],
   .listed 0xEB0 "LAO VOWEL SIGN " ["A,MAI KAN,AA,AM,I,II,Y,YY,U,UU"],
   .listed 0xEBA "LAO " [
    "SIGN PALI VIRAMA,VOWEL SIGN MAI KON,SEMIVOWEL SIGN LO,SEMIVOWEL SIGN NYO"],
   .listed 0xEC0 "LAO VOWEL SIGN " ["E,EI,O,AY,AI"],
   .listed 0xEC6 "" ["LAO KO LA"],
   .listed 0xEC8 "LAO " [
    "TONE MAI EK,TONE MAI THO,TONE MAI TI,TONE MAI CATAWA,CANCELLATION MARK,NIGGAHITA"],
   .listed 0xED0 "LAO DIGIT " digits,
   .listed 0xEDC "LAO " ["HO NO,HO MO,LETTER KHMU GO,LETTER KHMU NYO"],
   .listed 0xF00 "" ["TIBETAN SYLLABLE OM"],
   .listed 0xF01 "TIBETAN MARK " [
    "GTER YIG MGO TRUNCATED A,GTER YIG MGO -UM RNAM BCAD MA,GTER YIG MGO -UM GTER TSHEG MA",
    "INITIAL YIG MGO MDUN MA,CLOSING YIG MGO SGAB MA,CARET YIG MGO PHUR SHAD MA",
    "YIG MGO TSHEG SHAD MA,SBRUL SHAD,BSKUR YIG MGO,BKA- SHOG YIG MGO,INTERSYLLABIC TSHEG",
    "DELIMITER TSHEG BSTAR,SHAD,NYIS SHAD,TSHEG SHAD,NYIS TSHEG SHAD,RIN CHEN SPUNGS SHAD",
    "RGYA GRAM SHAD,CARET -DZUD RTAGS ME LONG CAN,GTER TSHEG"],
   .listed 0xF15 "TIBETAN LOGOTYPE SIGN " ["CHAD RTAGS,LHAG RTAGS"],
   .listed 0xF17 "TIBETAN ASTROLOGICAL SIGN " ["SGRA GCAN -CHAR RTAGS,-KHYUD PA,SDONG TSHUGS"],
   .listed 0xF1A "TIBETAN SIGN RDEL " [
    "DKAR GCIG,DKAR GNYIS,DKAR GSUM,NAG GCIG,NAG GNYIS,DKAR RDEL NAG"],
   .listed 0xF20 "TIBETAN DIGIT " digits,
   .listed 0xF2A "TIBETAN DIGIT HALF " units,
   .listed 0xF33 "TIBETAN " [
    "DIGIT HALF ZERO,MARK BSDUS RTAGS,MARK NGAS BZUNG NYI ZLA",
    "MARK CARET -DZUD RTAGS BZHI MIG CAN,MARK NGAS BZUNG SGOR RTAGS,MARK CHE MGO",
    "MARK TSA -PHRU,MARK GUG RTAGS GYON,MARK GUG RTAGS GYAS,MARK ANG KHANG GYON",
    "MARK ANG KHANG GYAS,SIGN YAR TSHES,SIGN MAR TSHES"],
   .listed 0xF40 "TIBETAN LETTER " ["KA,KHA,GA,GHA,NGA,CA,CHA,JA"],
   .listed 0xF49 "TIBETAN LETTER " [
    "NYA,TTA,TTHA,DDA,DDHA,NNA,TA,THA,DA,DHA,NA,PA,PHA,BA,BHA,MA,TSA,TSHA,DZA,DZHA,WA,ZHA,ZA",
    "-A,YA,RA,LA,SHA,SSA,SA,HA,A,KSSA,FIXED-FORM RA,KKA,RRA"],
   .listed 0xF71 "TIBETAN VOWEL SIGN " [
    "AA,I,II,U,UU,VOCALIC R,VOCALIC RR,VOCALIC L,VOCALIC LL,E,EE,O,OO"],
   .listed 0xF7E "TIBETAN " [
    "SIGN RJES SU NGA RO,SIGN RNAM BCAD,VOWEL SIGN REVERSED I,VOWEL SIGN REVERSED II",
    "SIGN NYI ZLA NAA DA,SIGN SNA LDAN,MARK HALANTA,MARK PALUTA,SIGN LCI RTAGS",
    "SIGN YANG RTAGS,SIGN LCE TSA CAN,SIGN MCHU CAN,SIGN GRU CAN RGYINGS,SIGN GRU MED RGYINGS",
    "SIGN INVERTED MCHU CAN,SUBJOINED SIGN LCE TSA CAN,SUBJOINED SIGN MCHU CAN",
    "SUBJOINED SIGN INVERTED MCHU CAN"],
   .listed 0xF90 "TIBETAN SUBJOINED LETTER " ["KA,KHA,GA,GHA,NGA,CA,CHA,JA"],
   .listed 0xF99 "TIBETAN SUBJOINED LETTER " [
    "NYA,TTA,TTHA,DDA,DDHA,NNA,TA,THA,DA,DHA,NA,PA,PHA,BA,BHA,MA,TSA,TSHA,DZA,DZHA,WA,ZHA,ZA",
    "-A,YA,RA,LA,SHA,SSA,SA,HA,A,KSSA,FIXED-FORM WA,FIXED-FORM YA,FIXED-FORM RA"],
   .listed 0xFBE "TIBETAN KU RU " ["KHA,KHA BZHI MIG CAN"],
   .listed 0xFC0 "TIBETAN CANTILLATION SIGN " ["HEAVY BEAT,LIGHT BEAT,CANG TE-U,SBUB -CHAL"],
   .listed 0xFC4 "TIBETAN SYMBOL " [
    "DRIL BU,RDO RJE,PADMA GDAN,RDO RJE RGYA GRAM,PHUR PA,NOR BU,NOR BU NYIS -KHYIL",
    "NOR BU GSUM -KHYIL,NOR BU BZHI -KHYIL"],
   .listed 0xFCE "TIBETAN " [
    "SIGN RDEL NAG RDEL DKAR,SIGN RDEL NAG GSUM,MARK BSKA- SHOG GI MGO RGYAN",
    "MARK MNYAM YIG GI MGO RGYAN,MARK NYIS TSHEG,MARK INITIAL BRDA RNYING YIG MGO MDUN MA",
    "MARK CLOSING BRDA RNYING YIG MGO SGAB MA"],
   .listed 0xFD5 "" [
    "RIGHT-FACING SVASTI SIGN,LEFT-FACING SVASTI SIGN,RIGHT-FACING SVASTI SIGN WITH DOTS",
    "LEFT-FACING SVASTI SIGN WITH DOTS,TIBETAN MARK LEADING MCHAN RTAGS",
    "TIBETAN MARK TRAILING MCHAN RTAGS"],
   .listed 0x1000 "MYANMAR LETTER " [
    "KA,KHA,GA,GHA,NGA,CA,CHA,JA,JHA,NYA,NNYA,TTA,TTHA,DDA,DDHA,NNA,TA,THA,DA,DHA,NA,PA,PHA",
    "BA,BHA,MA,YA,RA,LA,WA,SA,HA,LLA,A,SHAN A,I,II,U,UU,E,MON E,O,AU"],
   .listed 0x102B "MYANMAR VOWEL SIGN " ["TALL AA,AA,I,II,U,UU,E,AI,MON II,MON O,E ABOVE"],
   .listed 0x1036 "MYANMAR SIGN " ["ANUSVARA,DOT BELOW,VISARGA,VIRAMA,ASAT"],
   .listed 0x103B "MYANMAR CONSONANT SIGN MEDIAL " ["YA,RA,WA,HA"],
   .listed 0x103F "" ["MYANMAR LETTER GREAT SA"],
   .listed 0x1040 "MYANMAR DIGIT " digits,
   .listed 0x104A "MYANMAR " [
    "SIGN LITTLE SECTION,SIGN SECTION,SYMBOL LOCATIVE,SYMBOL COMPLETED,SYMBOL AFOREMENTIONED",
    "SYMBOL GENITIVE,LETTER SHA,LETTER SSA"],
   .listed 0x1052 "MYANMAR LETTER VOCALIC " ["R,RR,L,LL"],
   .listed 0x1056 "MYANMAR VOWEL SIGN VOCALIC " ["R,RR,L,LL"],
   .listed 0x105A "MYANMAR LETTER MON " ["NGA,JHA,BBA,BBE"],
   .listed 0x105E "MYANMAR CONSONANT SIGN MON MEDIAL " ["NA,MA,LA"],
   .listed 0x1061 "MYANMAR " [
    "LETTER SGAW KAREN SHA,VOWEL SIGN SGAW KAREN EU,TONE MARK SGAW KAREN HATHI",
    "TONE MARK SGAW KAREN KE PHO,LETTER WESTERN PWO KAREN THA,LETTER WESTERN PWO KAREN PWA",
    "VOWEL SIGN WESTERN PWO KAREN EU,VOWEL SIGN WESTERN PWO KAREN UE"],
   .listed 0x1069 "MYANMAR SIGN WESTERN PWO KAREN TONE-" ["1,2,3,4,5"],
   .listed 0x106E "MYANMAR LETTER EASTERN PWO KAREN " ["NNA,YWA,GHWA"],
   .listed 0x1071 "MYANMAR VOWEL SIGN " ["GEBA KAREN I,KAYAH OE,KAYAH U,KAYAH EE"],
   .listed 0x1075 "MYANMAR LETTER SHAN " ["KA,KHA,GA,CA,ZA,NYA,DA,NA,PHA,FA,BA,THA,HA"],
   .listed 0x1082 "" ["MYANMAR CONSONANT SIGN SHAN MEDIAL WA"],
   .listed 0x1083 "MYANMAR VOWEL SIGN SHAN " ["AA,E,E ABOVE,FINAL Y"],
   .listed 0x1087 "MYANMAR SIGN SHAN " [
    "TONE-2,TONE-3,TONE-5,TONE-6,COUNCIL TONE-2,COUNCIL TONE-3,COUNCIL EMPHATIC TONE"],
   .listed 0x108E "MYANMAR " ["LETTER RUMAI PALAUNG FA,SIGN RUMAI PALAUNG TONE-5"],
   .listed 0x1090 "MYANMAR SHAN DIGIT " digits,
   .listed 0x109A "MYANMAR " [
    "SIGN KHAMTI TONE-1,SIGN KHAMTI TONE-3,VOWEL SIGN AITON A,VOWEL SIGN AITON AI",
    "SYMBOL SHAN ONE,SYMBOL SHAN EXCLAMATION"]]

end ResourceQuery.Text
