import PageBinding.Text.Category

/-!
The scripts of characters, as of Unicode 17.0.
-/
namespace PageBinding.Text

def scriptText : String := "
  Adlam 1e900+76 1e950+10 1e95e+2;
  Ahom 11700+27 1171d+15 11730+23;
  Anatolian_Hieroglyphs 14400+583;
  Arabic 1ee24 1ee27 1ee39 1ee3b 1ee42 1ee54 1ee64 1ee7e 600+5 606+6 60d+14 61c+3 620+32 641+10
  656+26 671+108 6de+34 750+48 870+34 897+75 8e3+29 fb50+494 fd40+144 fdf0+16 fe70+5 fe76+135
  10e60+31 10ec2+6 10ed0+9 10efa+6 1ee00+4 1ee05+27 1ee21+2 1ee29+10 1ee34+4 1ee4d+3 1ee51+2
  1ee61+2 1ee67+4 1ee6c+7 1ee74+4 1ee79+4 1ee80+10 1ee8b+17 1eea1+3 1eea5+5 1eeab+17 1eef0+2
  1ee47*3 1ee57*5;
  Armenian 531+38 559+50 58d+3 fb13+5;
  Avestan 10b00+54 10b39+7;
  Balinese 1b00+77 1b4e+50;
  Bamum a6a0+88 16800+569;
  Bassa_Vah 16ad0+30 16af0+6;
  Batak 1bc0+52 1bfc+4;
  Bengali 9b2 9d7 980+4 985+8 98f+2 993+22 9aa+7 9b6+4 9bc+9 9c7+2 9cb+4 9dc+2 9df+5 9e6+25;
  Beria_Erfe 16ea0+25 16ebb+25;
  Bhaiksuki 11c00+9 11c0a+45 11c38+14 11c50+29;
  Bopomofo 2ea+2 3105+43 31a0+32;
  Brahmi 1107f 11000+78 11052+36;
  Braille 2800+256;
  Buginese 1a00+28 1a1e+2;
  Buhid 1740+20;
  Canadian_Aboriginal 1400+640 18b0+70 11ab0+16;
  Carian 102a0+49;
  Caucasian_Albanian 1056f 10530+52;
  Chakma 11100+53 11136+18;
  Cham aa00+55 aa40+14 aa50+10 aa5c+4;
  Cherokee 13a0+86 13f8+6 ab70+80;
  Chorasmian 10fb0+28;
  Common d7 f7 374 37e 385 387 605 60c 61b 61f 640 6dd 8e2 e3f 10fb 1805 1cd3 1ce1 1cfa 3006 30a0
  31ef 32ff a92e a9cf ab5b feff ff70 1d4a2 1d4bb 1d546 1f7f0 1fac8 e0001 0+65 5b+6 7b+47 ab+15
  bb+5 2b9+39 2e5+5 2ec+20 964+2 fd5+4 16eb+3 1735+2 1802+2 1ce9+4 1cee+6 1cf5+3 2000+12 200e+87
  2066+11 2074+11 2080+15 20a0+34 2100+38 2127+3 212c+6 2133+27 214f+17 2189+3 2190+666 2440+11
  2460+928 2900+628 2b76+138 2e00+94 2ff0+21 3008+25 3030+8 303c+4 309b+2 30fb+2 3190+16 31c0+38
  3220+64 327f+81 3358+168 4dc0+64 a700+34 a788+3 a830+10 ab6a+2 fd3e+2 fe10+10 fe30+35 fe54+19
  fe68+4 ff01+32 ff3b+6 ff5b+11 ff9e+2 ffe0+7 ffe8+7 fff9+5 10100+3 10107+45 10137+9 10190+13
  101d0+45 102e1+27 1bca0+4 1cc00+253 1cd00+436 1ceba+23 1cee0+17 1cf50+116 1d000+246 1d100+39
  1d129+62 1d16a+17 1d183+2 1d18c+30 1d1ae+61 1d2c0+20 1d2e0+20 1d300+87 1d360+25 1d400+85
  1d456+71 1d49e+2 1d4a5+2 1d4a9+4 1d4ae+12 1d4bd+7 1d4c5+65 1d507+4 1d50d+8 1d516+7 1d51e+28
  1d53b+4 1d540+5 1d54a+7 1d552+340 1d6a8+292 1d7ce+50 1ec71+68 1ed01+61 1f000+44 1f030+100
  1f0a0+15 1f0b1+15 1f0c1+15 1f0d1+37 1f100+174 1f1e6+26 1f201+2 1f210+44 1f240+9 1f250+2 1f260+6
  1f300+985 1f6dc+17 1f6f0+13 1f700+218 1f7e0+12 1f800+12 1f810+56 1f850+10 1f860+40 1f890+30
  1f8b0+12 1f8c0+2 1f8d0+9 1f900+344 1fa60+14 1fa70+13 1fa80+11 1fa8e+57 1facd+16 1fadf+12
  1faef+10 1fb00+147 1fb94+103 e0020+96;
  Coptic 3e2+14 2c80+116 2cf9+7;
  Cuneiform 12000+922 12400+111 12470+5 12480+196;
  Cypriot 10808 1083c 1083f 10800+6 1080a+44 10837+2;
  Cypro_Minoan 12f90+99;
  Cyrillic 1d2b 1d78 1e08f 400+133 487+169 1c80+11 2de0+32 a640+96 fe2e+2 1e030+62;
  Deseret 10400+80;
  Devanagari 900+81 955+15 966+26 a8e0+32 11b00+10;
  Dives_Akuru 11909 11900+7 1190c+8 11915+2 11918+30 11937+2 1193b+12 11950+10;
  Dogra 11800+60;
  Duployan 1bc00+107 1bc70+13 1bc80+9 1bc90+10 1bc9c+4;
  Egyptian_Hieroglyphs 13000+1110 13460+3995;
  Elbasan 10500+40;
  Elymaic 10fe0+23;
  Ethiopic 1258 12c0 1200+73 124a+4 1250+7 125a+4 1260+41 128a+4 1290+33 12b2+4 12b8+7 12c2+4
  12c8+15 12d8+57 1312+4 1318+67 135d+32 1380+26 2d80+23 2da0+7 2da8+7 2db0+7 2db8+7 2dc0+7 2dc8+7
  2dd0+7 2dd8+7 ab01+6 ab09+6 ab11+6 ab20+7 ab28+7 1e7e0+7 1e7e8+4 1e7ed+2 1e7f0+15;
  Garay 10d40+38 10d69+29 10d8e+2;
  Georgian 10c7 10cd 2d27 2d2d 10a0+38 10d0+43 10fc+4 1c90+43 1cbd+3 2d00+38;
  Glagolitic 2c00+96 1e000+7 1e008+17 1e01b+7 1e023+2 1e026+5;
  Gothic 10330+27;
  Grantha 11350 11357 11300+4 11305+8 1130f+2 11313+22 1132a+7 11332+2 11335+5 1133c+9 11347+2
  1134b+3 1135d+7 11366+7 11370+5;
  Greek 37f 384 386 38c 1dbf 2126 ab65 101a0 370+4 375+3 37a+4 388+3 38e+20 3a3+63 3f0+16 1d26+5
  1d5d+5 1d66+5 1f00+22 1f18+6 1f20+38 1f48+6 1f50+8 1f5f+31 1f80+53 1fb6+15 1fc6+14 1fd6+6
  1fdd+19 1ff2+3 1ff6+9 10140+79 1d200+70 1f59*3;
  Gujarati ad0 a81+3 a85+9 a8f+3 a93+22 aaa+7 ab2+2 ab5+5 abc+10 ac7+3 acb+3 ae0+4 ae6+12 af9+7;
  Gunjala_Gondi 11d60+6 11d67+2 11d6a+37 11d90+2 11d93+6 11da0+10;
  Gurmukhi a3c a51 a5e a01+3 a05+6 a0f+2 a13+22 a2a+7 a32+2 a35+2 a38+2 a3e+5 a47+2 a4b+3 a59+4
  a66+17;
  Gurung_Khema 16100+58;
  Han 3005 3007 2e80+26 2e9b+89 2f00+214 3021+9 3038+4 3400+6592 4e00+20992 f900+366 fa70+106
  16fe2+2 16ff0+7 20000+42720 2a700+4382 2b820+5774 2ceb0+7473 2ebf0+622 2f800+542 30000+4939
  31350+8490;
  Hangul 1100+256 302e+2 3131+94 3200+31 3260+31 a960+29 ac00+11172 d7b0+23 d7cb+49 ffa0+31 ffc2+6
  ffca+6 ffd2+6 ffda+3;
  Hanifi_Rohingya 10d00+40 10d30+10;
  Hanunoo 1720+21;
  Hatran 108e0+19 108f4+2 108fb+5;
  Hebrew fb3e 591+55 5d0+27 5ef+6 fb1d+26 fb38+5 fb40+2 fb43+2 fb46+10;
  Hiragana 1b132 1f200 3041+86 309d+3 1b001+287 1b150+3;
  Imperial_Aramaic 10840+22 10857+9;
  Inherited 670 1ced 1cf4 101fd 102e0 1133b 300+112 485+2 64b+11 951+4 1ab0+46 1ae0+12 1cd0+3
  1cd4+13 1ce2+7 1cf8+2 1dc0+64 200c+2 20d0+33 302a+4 3099+2 fe00+16 fe20+14 1cf00+46 1cf30+23
  1d167+3 1d17b+8 1d185+7 1d1aa+4 e0100+240;
  Inscriptional_Pahlavi 10b60+19 10b78+8;
  Inscriptional_Parthian 10b40+22 10b58+8;
  Javanese a980+78 a9d0+10 a9de+2;
  Kaithi 110cd 11080+67;
  Kannada c80+13 c8e+3 c92+23 caa+10 cb5+5 cbc+9 cc6+3 cca+4 cd5+2 cdc+3 ce0+4 ce6+10 cf1+3;
  Katakana 1b000 1b155 30a1+90 30fd+3 31f0+16 32d0+47 3300+88 ff66+10 ff71+45 1aff0+4 1aff5+7
  1affd+2 1b120+3 1b164+4;
  Kawi 11f00+17 11f12+41 11f3e+29;
  Kayah_Li a92f a900+46;
  Kharoshthi 10a00+4 10a05+2 10a0c+8 10a15+3 10a19+29 10a38+3 10a3f+10 10a50+9;
  Khitan_Small_Script 16fe4 18cff 18b00+470;
  Khmer 1780+94 17e0+10 17f0+10 19e0+32;
  Khojki 11200+18 11213+47;
  Khudawadi 112b0+59 112f0+10;
  Kirat_Rai 16d40+58;
  Lao e84 ea5 ec6 e81+2 e86+5 e8c+24 ea7+23 ec0+5 ec8+7 ed0+10 edc+4;
  Latin aa ba 2071 207f 2132 214e 41+26 61+26 c0+23 d8+31 f8+449 2e0+5 1d00+38 1d2c+49 1d62+4
  1d6b+13 1d79+70 1e00+256 2090+13 212a+2 2160+41 2c60+32 a722+102 a78b+82 a7f1+15 ab30+43 ab5c+9
  ab66+4 fb00+7 ff21+26 ff41+26 10780+6 10787+42 107b2+9 1df00+31 1df25+6;
  Lepcha 1c00+56 1c3b+15 1c4d+3;
  Limbu 1940 1900+31 1920+12 1930+12 1944+12;
  Linear_A 10600+311 10740+22 10760+8;
  Linear_B 10000+12 1000d+26 10028+19 1003c+2 1003f+15 10050+14 10080+123;
  Lisu 11fb0 a4d0+48;
  Lycian 10280+29;
  Lydian 1093f 10920+26;
  Mahajani 11150+39;
  Makasar 11ee0+25;
  Malayalam d00+13 d0e+3 d12+51 d46+3 d4a+6 d54+16 d66+26;
  Mandaic 85e 840+28;
  Manichaean 10ac0+39 10aeb+12;
  Marchen 11c70+32 11c92+22 11ca9+14;
  Masaram_Gondi 11d3a 11d00+7 11d08+2 11d0b+44 11d3c+2 11d3f+9 11d50+10;
  Medefaidrin 16e40+91;
  Meetei_Mayek aae0+23 abc0+46 abf0+10;
  Mende_Kikakui 1e800+197 1e8c7+16;
  Meroitic_Cursive 109a0+24 109bc+20 109d2+46;
  Meroitic_Hieroglyphs 10980+32;
  Miao 16f00+75 16f4f+57 16f8f+17;
  Modi 11600+69 11650+10;
  Mongolian 1804 1800+2 1806+20 1820+89 1880+43 11660+13;
  Mro 16a40+31 16a60+10 16a6e+2;
  Multani 11288 11280+7 1128a+4 1128f+15 1129f+11;
  Myanmar 1000+160 a9e0+31 aa60+32 116d0+20;
  Nabataean 10880+31 108a7+9;
  Nag_Mundari 1e4d0+42;
  Nandinagari 119a0+8 119aa+46 119da+11;
  New_Tai_Lue 1980+44 19b0+26 19d0+11 19de+2;
  Newa 11400+92 1145d+5;
  Nko 7c0+59 7fd+3;
  Nushu 16fe1 1b170+396;
  Nyiakeng_Puachue_Hmong 1e100+45 1e130+14 1e140+10 1e14e+2;
  Ogham 1680+29;
  Ol_Chiki 1c50+48;
  Ol_Onal 1e5ff 1e5d0+43;
  Old_Hungarian 10c80+51 10cc0+51 10cfa+6;
  Old_Italic 10300+36 1032d+3;
  Old_North_Arabian 10a80+32;
  Old_Permic 10350+43;
  Old_Persian 103a0+36 103c8+14;
  Old_Sogdian 10f00+40;
  Old_South_Arabian 10a60+32;
  Old_Turkic 10c00+73;
  Old_Uyghur 10f70+26;
  Oriya b01+3 b05+8 b0f+2 b13+22 b2a+7 b32+2 b35+5 b3c+9 b47+2 b4b+3 b55+3 b5c+2 b5f+5 b66+18;
  Osage 104b0+36 104d8+36;
  Osmanya 10480+30 104a0+10;
  Pahawh_Hmong 16b00+70 16b50+10 16b5b+7 16b63+21 16b7d+19;
  Palmyrene 10860+32;
  Pau_Cin_Hau 11ac0+57;
  Phags_Pa a840+56;
  Phoenician 1091f 10900+28;
  Psalter_Pahlavi 10b80+18 10b99+4 10ba9+7;
  Rejang a95f a930+36;
  Runic 16a0+75 16ee+11;
  Samaritan 800+46 830+15;
  Saurashtra a880+70 a8ce+12;
  Sharada 11180+96 11b60+8;
  Shavian 10450+48;
  Siddham 11580+54 115b8+38;
  Sidetic 10940+26;
  SignWriting 1d800+652 1da9b+5 1daa1+15;
  Sinhala dbd dca dd6 d81+3 d85+18 d9a+24 db3+9 dc0+7 dcf+6 dd8+8 de6+10 df2+3 111e1+20;
  Sogdian 10f30+42;
  Sora_Sompeng 110d0+25 110f0+10;
  Soyombo 11a50+83;
  Sundanese 1b80+64 1cc0+8;
  Sunuwar 11bc0+34 11bf0+10;
  Syloti_Nagri a800+45;
  Syriac 700+14 70f+60 74d+3 860+11;
  Tagalog 171f 1700+22;
  Tagbanwa 1760+13 176e+3 1772+2;
  Tai_Le 1950+30 1970+5;
  Tai_Tham 1a20+63 1a60+29 1a7f+11 1a90+10 1aa0+14;
  Tai_Viet aa80+67 aadb+5;
  Tai_Yo 1e6c0+31 1e6e0+22 1e6fe+2;
  Takri 11680+58 116c0+10;
  Tamil b9c bd0 bd7 11fff b82+2 b85+6 b8e+3 b92+4 b99+2 b9e+2 ba3+2 ba8+3 bae+12 bbe+5 bc6+3 bca+4
  be6+21 11fc0+50;
  Tangsa 16a70+79 16ac0+10;
  Tangut 16fe0 17000+6912 18d00+31 18d80+115;
  Telugu c00+13 c0e+3 c12+23 c2a+16 c3c+9 c46+3 c4a+4 c55+2 c58+3 c5c+2 c60+4 c66+10 c77+9;
  Thaana 780+50;
  Thai e01+58 e40+28;
  Tibetan f00+72 f49+36 f71+39 f99+36 fbe+15 fce+7 fd9+2;
  Tifinagh 2d7f 2d30+56 2d6f+2;
  Tirhuta 11480+72 114d0+10;
  Todhri 105c0+52;
  Tolong_Siki 11db0+44 11de0+10;
  Toto 1e290+31;
  Tulu_Tigalari 1138b 1138e 113c2 113c5 11380+10 11390+38 113b7+10 113c7+4 113cc+10 113d7+2
  113e1+2;
  Ugaritic 1039f 10380+30;
  Vai a500+300;
  Vithkuqi 10570+11 1057c+15 1058c+7 10594+2 10597+11 105a3+15 105b3+7 105bb+2;
  Wancho 1e2ff 1e2c0+58;
  Warang_Citi 118ff 118a0+83;
  Yezidi 10e80+42 10eab+3 10eb0+2;
  Yi a000+1165 a490+55;
  Zanabazar_Square 11a00+72"

def scripts : List (String × Table) :=
  (splitOn ';' scriptText.toList).map fun script =>
    match words script with
    | [] => ("", {})
    | name :: table => (String.ofList name, .ofWords table)

end PageBinding.Text
