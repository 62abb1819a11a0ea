/-!
# Script extensions of characters

One row per script whose property `Script_Extensions` has other characters than its property
`Script`: the script's first name, then those characters, in the notation of `CharSet.ofText`.
Data of the Unicode Character Database.
-/

namespace MediaCatalog.Unicode

/-- The characters whose script extensions contain a script. -/
def scriptExtensionTable : List (List String × String) := [
  (["adlam"],
    "61f 20 1a0e df1 1babe+4b 4+9 4+1"),
  (["caucasianalbanian"],
    "304 2c 2c 101d1+33 b"),
  (["arabic"],
    "600+4 1+d6 1+21 50+2f f0+21 5+4a 1+1c 174f df1 cd0e+27f 20+f 70+4 1+86 3e3+1b b64+1e 43+5
    8+8 21+5 df00+3 1+1a 1+1 1 2 1+9 1+3 1 1 6 4 1 1 1+2 1+1 1 2 1 1 1 1 1+1 1 2+3 1+6 1+3 1+3
    1 1+9 1+10 5+2 1+4 1+10 34+1"),
  (["armenian"],
    "308 228+25 2+31 2+2 f583+4"),
  (["avestan"],
    "b7 2d78+1 dcce+35 3+6"),
  (["bengali"],
    "2bc 694+1 11+1 1a+3 1+7 2+1 2+15 1+6 1 3+3 2+8 2+1 2+3 8 4+1 1+4 2+18 12d1 1 2+1 1 8 8 2 4
    2+2 8bf9"),
  (["bopomofo"],
    "2c7 1+2 d 10+1 2d15+2 4+9 1+c a+3 2 6 c3 9+2a 70+1f cc85+1 11a+4"),
  (["buginese"],
    "1a00+1b 2+1 8faf"),
  (["buhid"],
    "1735+1 9+13"),
  (["chakma"],
    "9e6+9 650+9 100b6+34 1+11"),
  (["carian"],
    "b7 1fa2 2 dd3 d46e+30"),
  (["cherokee"],
    "300+2 1 6+1 16+1 b+1 106e+55 2+5 9772+4f"),
  (["coptic"],
    "b7 248 3+1 1 6c+1 6c+d 2890+73 5+6 117 d4c8+1b"),
  (["cyprominoan"],
    "10100+1 2e8e+62"),
  (["cypriot"],
    "10100+2 4+2c 3+8 6c0+5 2 1+2b 1+1 3 2"),
  (["cyrillic"],
    "2bc 43+2 1 1 1 2 5 ee+12f 1750+a a0 4c 7f fe7+1f 43 77fc+5f 578e+1 e200+3d 21"),
  (["devanagari"],
    "2bc 643+52 2+2a 1350+26 1+1 3f6 873f+9 a6+1f 7200+9"),
  (["dogra"],
    "964+b 9ec0+9 6fc6+3b"),
  (["duployan"],
    "b7 24f+1 1 18+1 2b17 18dc3+6a 5+c 3+8 7+9 2+7"),
  (["elbasan"],
    "b7 24d 101fa+27"),
  (["ethiopic"],
    "30e ef1+48 1+3 2+6 1 1+3 2+28 1+3 2+20 1+3 2+6 1 1+3 2+e 1+38 1+3 2+42 2+1f 3+19 19e6+16
    9+6 1+6 1+6 1+6 1+6 1+6 1+6 1+6 7d22+5 2+5 2+5 9+6 1+6 13cb1+6 1+3 1+1 1+e"),
  (["georgian"],
    "b7 4d1 b16+25 1 5 2+2f b90+2a 2+2 39a ca5+25 1 5 103"),
  (["glagolitic"],
    "b7 24b 1 17e 2 101 b71 f5e ba5+5f 1e3 782b 13990+6 1+10 2+6 1+1 1+4"),
  (["gunjalagondi"],
    "b7 8ac+1 113fa+5 1+1 1+24 1+1 1+5 7+9"),
  (["masaramgondi"],
    "964+1 1139a+6 1+1 1+2b 3 1+1 1+8 8+9"),
  (["gothic"],
    "b7 24c+1 2 28 fffe+1a"),
  (["grantha"],
    "951+1 11+1 280+d 10dc 1+1 1e+2 3+1 3f6 f20f+3 1+7 2+1 2+15 1+6 1+1 1+4 1+9 2+1 2+2 2 6 5+6
    2+6 3+4 c5b+1 1"),
  (["greek"],
    "b7 248+1 2 1 1 a 2e 2 2a+7 2+3 1 4 1 1+2 1 1+13 1+3e e+f 1926+4 32+4 4+4 54+2 13e+15 2+5
    2+25 2+5 2+7 1 1 1 1+1e 2+34 1+e 1+d 2+5 1+12 2+2 1+8 5e c8 8a3e 55da+4e 11 d05f+45"),
  (["gujarati"],
    "951+1 11+1 11b+2 1+8 1+2 1+15 1+6 1+1 1+4 2+9 1+2 1+2 2 f+3 2+b 7+6 9d30+9"),
  (["gurmukhi"],
    "951+1 11+1 9b+2 1+5 4+1 2+15 1+6 1+1 1+1 1+1 2 1+4 4+1 2+2 3 7+3 1 7+10 9db9+9"),
  (["hangul"],
    "1100+ff 1e01+2 4+9 1+c e+2 6 c3 35+5d 71+1e 41+1e 76e1+1c 283+2ba3 c+16 4+30 2649+1 11a+4
    3a+1e 3+5 2+5 2+5 2+2"),
  (["han"],
    "b7 2dc8+19 1+58 c+d5 1a+f 1+2 1+c 1+c 1+c 2 6+8 bb 94+f 20+25 9 30+27 38+30 f+b 33 58+18
    a+4 60+1e 1+19bf 40+51ff 700+7 51f8+16d 2+69 36b+1 11a+4 707c+1 c+6 6369+11 1ede+1
    dae+a6df 20+111d 2+168d 2+1d30 f+26d 9a2+21d 5e2+134a 5+2129"),
  (["hanunoo"],
    "1720+16"),
  (["hebrew"],
    "307+1 288+36 8+1a 4+5 f528+19 1+4 1 1+1 1+1 1+9"),
  (["hiragana"],
    "3001+2 4+9 1+c 10+5 1 4+1 3+55 2+7 5a+1 cd48+1 11a+4 a 2d+1 b061+11e 12 1d+2 40ad"),
  (["oldhungarian"],
    "205a 2 dd3 f de3e+32 d+32 7+5"),
  (["javanese"],
    "a980+4d 1+a 4+1"),
  (["kayahli"],
    "a900+2f"),
  (["katakana"],
    "305 1d 2cdd+2 4+9 1+c 10+5 1 4+1 5b+3 3+5f f0+f d0+2e 1+57 caed+1 11a+3e b050+3 1+6 1+1 1
    11f+2 32 e+3"),
  (["khojki"],
    "ae6+9 9d40+9 69c6+11 1+2e"),
  (["kannada"],
    "951+1 11+1 31a+c 1+2 1+16 1+9 1+4 2+8 1+2 1+3 7+1 5+2 1+3 2+9 1+2 fdc 1+1 6 17 1 8b3b+5"),
  (["kaithi"],
    "966+9 24c1 79fe+9 6846+42 a"),
  (["latin"],
    "41+19 6+19 2f c 2 5+16 1+1e 1+1c0 3 a 1+2 1 9 1 6+4 1b+e 1+1 1 f+2 7+1 1+1 26 5 4+c 115+1
    4ca+1 7a8 c04+25 6+30 5+3 5+c 1+45 39 7+ff 12f 41 d 10+c 53 39+1 6 1b 11+28 ad7+1f 197
    78e8+7 1a+65 3+51 14+e 12e 201+2a 1+8 1+3 4f96+6 41a+19 6+19 825+5 1+29 1+8 d745+1e 6+5"),
  (["limbu"],
    "965 f9a+1e 1+b 4+b 4 3+b"),
  (["lineara"],
    "10107+2c 4cc+136 9+15 a+7"),
  (["linearb"],
    "10000+b 1+19 1+12 1+1 1+e 2+d 22+7a 5+2 4+2c 3+8"),
  (["lisu"],
    "2bc 10 2d3c+1 74c4+2f 7ab0"),
  (["lycian"],
    "205a e225+1c"),
  (["lydian"],
    "b7 2d79 daee+19 5"),
  (["mahajani"],
    "b7 8ac+b 9ec0+9 6916+26"),
  (["mandaic"],
    "640 1ff+1b 2"),
  (["manichaean"],
    "640 1047f+26 4+b"),
  (["meroitichieroglyphs"],
    "205d e922+1f"),
  (["malayalam"],
    "951+1 11+1 39a+c 1+2 1+32 1+2 1+5 4+f 2+19 f5a 17 8b3d+2"),
  (["modi"],
    "a830+9 6dc6+44 b+9"),
  (["mongolian"],
    "1800+19 6+58 7+2a 784 fd1+1 5+3 e654+c"),
  (["multani"],
    "a66+9 10810+6 1 1+3 1+e 1+a"),
  (["myanmar"],
    "1000+9f 988e b1+1e 61+1f 6c50+13"),
  (["nandinagari"],
    "951 12+1 380+9 ff9 8 7 8b35+5 716a+7 2+2d 2+a"),
  (["newa"],
    "951+1 1382 1+1 9 6 1 1 f712+5b 1+4"),
  (["nko"],
    "60c e 3 1a0+3a 2+2 f53e+1"),
  (["oldturkic"],
    "205a dd5 ddcf+48"),
  (["oriya"],
    "951+1 11+1 19b+2 1+7 2+1 2+15 1+6 1+1 1+4 2+8 2+1 2+2 7+2 4+1 1+4 2+11 1162 17"),
  (["osage"],
    "301 2 6 4c 10157+23 4+23"),
  (["olduyghur"],
    "640 104b1 47d+19"),
  (["oldpermic"],
    "b7 248 5+2 a 16f fecc+2a"),
  (["phagspa"],
    "1802+1 1 829 fd2 783d+37"),
  (["psalterpahlavi"],
    "640 1053f+11 7+3 c+6"),
  (["hanifirohingya"],
    "60c e 3 20 93 1062b+27 8+9"),
  (["runic"],
    "16a0+58"),
  (["samaritan"],
    "800+2d 2+e 25f2"),
  (["shavian"],
    "b7 10398+2f"),
  (["sharada"],
    "951 1385 1 2+1 2 9 2 8b42+5 2 6947+5f 980+7"),
  (["khudawadi"],
    "964+1 9eca+9 6a76+3a 5+9"),
  (["sinhala"],
    "964+1 41b+2 1+11 3+17 1+8 1 2+6 3 4+5 1 1+7 6+9 2+2 efd f4ee+13"),
  (["sogdian"],
    "640 108ef+29"),
  (["sylotinagri"],
    "964+1 80+9 9e10+2c"),
  (["syriac"],
    "303+1 2+1 1 18+2 7+1 1+1 2da e+1 2 20 a+a 1a 8f+d 1+3b 2+2 110+a 158d 1"),
  (["tagbanwa"],
    "1735+1 29+c 1+2 1+1"),
  (["takri"],
    "964+1 9eca+9 6e46+39 6+9"),
  (["taile"],
    "300+1 5+1 3 d33+9 906+1d 2+4"),
  (["tamil"],
    "951+1 11+1 21c+1 1+5 3+2 1+3 3+1 1 1+1 3+1 3+2 3+b 4+4 3+2 1+3 2 6 e+14 10df 8c18 6a0d 1
    37+1 c83+31 d"),
  (["tangut"],
    "2ff0+f 1ef 13df0 1f+1aff 200+1e 61+72"),
  (["telugu"],
    "951+1 11+1 29a+c 1+2 1+16 1+f 2+8 1+2 1+3 7+1 1+2 1+1 2+3 2+9 7+8 1055+1 1 1 17"),
  (["tifinagh"],
    "302 1 1+3 19 2a0c+37 7+1 e"),
  (["tagalog"],
    "1700+15 9 15+1"),
  (["thaana"],
    "60c e+1 2 40+9 116+31 f640 a"),
  (["thai"],
    "2bc 1a 2b 2d acf+39 5+1b"),
  (["tibetan"],
    "f00+47 1+23 4+26 1+23 1+e 1+6 4+1 202d+3"),
  (["tirhuta"],
    "951+1 11+1 136f c f 8b3d+9 6c46+47 8+9"),
  (["toto"],
    "2bc 1dfd3+1e"),
  (["yezidi"],
    "60c e 3 40+9 10816+29 1+2 2+1"),
  (["yi"],
    "3001+1 5+9 2+7 df 6f04+48c 3+36 5a9a+4"),
  (["inherited"],
    "30f 2 1+e 3+6 2 2+f 1+1 1+11 1+4 1+3 5f0+1 115b+2d 2+b 2d6+35 1 1+4 20c+1 c2+1f dd10+f
    10+d 3cf cd02+2d 2+16 220+2 11+7 2+6 1e+3 c2f52+ef"),
  (["common"],
    "0+40 1a+5 1a+2e 1+b 1+1 1+4 17 1f 1c1+2 1+9 1 3 1+8 1 1+5 5+4 2+13 7e 6 1 27d d7 204 55c
    195+3 1027+b 2+20 1+1e 1+9 1+1 1+6 1+a 3+a 1+e 11+21 3e+25 1+2 2+5 1+1a 1+10 29+2 4+299
    16+a 15+39f 100+273 2+89 200+16 1+17 2+9 1+3 1 1+19 1a2 3 d d 15 211+17 1f 31+e c+3 a1+9
    5+5f 1f 19c0+3f 5908+19 66+2 3d0 e+1 52a4+9 16+14 2+b 1+12 1+3 93 1+1f 1a+5 1a+5 7f+6 1+6
    a+4 192+c 33+2c ca03+fc 3+1b3 6+16 f+10 5f+73 3c+f5 a+26 2+3d 3+10 8+1 7+1d 4+3c d5+13
    c+13 c+56 1b+6 87+54 1+46 1+1 2 2+1 2+3 1+b 1 1+6 1+40 1+3 2+7 1+6 1+1b 1+3 1+4 1 3+6
    1+153 2+123 2+31 1471+43 4c+3c 2c2+2b 4+63 c+e 2+e 1+e 1+24 a+ad 38+19 1+1 d+2b 4+8 17+5
    9a+3d8 3+10 3+c 3+d9 6+b 4 f+b 4+37 8+9 6+27 8+1d 2+b 4+1 e+8 27+157 8+d 2+c 3+a 3+38 1
    4+f 2+b 4+9 7+92 1+66 c0406 1e+5f"),
  (["garay"],
    "60c e 3 10720+25 3+1c 8+1"),
  (["gurungkhema"],
    "965 1579a+39"),
  (["olonal"],
    "964+1 1dc6a+2a 4"),
  (["sunuwar"],
    "300+1 1 9 2 1c 3 1188e+21 e+9"),
  (["todhri"],
    "301 2 2 9 1 4a 10261+33"),
  (["tulutigalari"],
    "ce6+9 1002 1 8b3b+5 bb 6a8e+9 1 2 1+25 1+9 1 2 1+3 1+9 1+1 8+1")]

end MediaCatalog.Unicode
