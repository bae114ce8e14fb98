import Daybook.Unicode.Runs

/-!
# Scripts

Every code point belongs to one script, written with four letters; a few are used in several
scripts. The tables are those of Unicode 16.
-/

namespace Daybook

namespace Unicode

/-- The scripts of all code points from zero on, as runs. -/
def scriptText : String :=
  "65Zyyy 26Latn 6Zyyy 26Latn 47Zyyy 1Latn 15Zyyy 1Latn 5Zyyy 23Latn 1Zyyy 31Latn 1Zyyy 449Latn " ++
  "39Zyyy 5Latn 5Zyyy 2Bopo 20Zyyy 112Zinh 4Grek 1Zyyy 3Grek 2Zzzz 4Grek 1Zyyy 1Grek 4Zzzz " ++
  "1Grek 1Zyyy 1Grek 1Zyyy 3Grek 1Zzzz 1Grek 1Zzzz 20Grek 1Zzzz 63Grek 14Copt 16Grek 133Cyrl " ++
  "2Zinh 169Cyrl 1Zzzz 38Armn 2Zzzz 50Armn 2Zzzz 3Armn 1Zzzz 55Hebr 8Zzzz 27Hebr 4Zzzz 6Hebr " ++
  "11Zzzz 5Arab 1Zyyy 6Arab 1Zyyy 14Arab 1Zyyy 3Arab 1Zyyy 32Arab 1Zyyy 10Arab 11Zinh 26Arab " ++
  "1Zinh 108Arab 1Zyyy 34Arab 14Syrc 1Zzzz 60Syrc 2Zzzz 3Syrc 48Arab 50Thaa 14Zzzz 59Nkoo 2Zzzz " ++
  "3Nkoo 46Samr 2Zzzz 15Samr 1Zzzz 28Mand 2Zzzz 1Mand 1Zzzz 11Syrc 5Zzzz 31Arab 1Zzzz 2Arab " ++
  "5Zzzz 75Arab 1Zyyy 29Arab 81Deva 4Zinh 15Deva 2Zyyy 26Deva 4Beng 1Zzzz 8Beng 2Zzzz 2Beng " ++
  "2Zzzz 22Beng 1Zzzz 7Beng 1Zzzz 1Beng 3Zzzz 4Beng 2Zzzz 9Beng 2Zzzz 2Beng 2Zzzz 4Beng 8Zzzz " ++
  "1Beng 4Zzzz 2Beng 1Zzzz 5Beng 2Zzzz 25Beng 2Zzzz 3Guru 1Zzzz 6Guru 4Zzzz 2Guru 2Zzzz 22Guru " ++
  "1Zzzz 7Guru 1Zzzz 2Guru 1Zzzz 2Guru 1Zzzz 2Guru 2Zzzz 1Guru 1Zzzz 5Guru 4Zzzz 2Guru 2Zzzz " ++
  "3Guru 3Zzzz 1Guru 7Zzzz 4Guru 1Zzzz 1Guru 7Zzzz 17Guru 10Zzzz 3Gujr 1Zzzz 9Gujr 1Zzzz 3Gujr " ++
  "1Zzzz 22Gujr 1Zzzz 7Gujr 1Zzzz 2Gujr 1Zzzz 5Gujr 2Zzzz 10Gujr 1Zzzz 3Gujr 1Zzzz 3Gujr 2Zzzz " ++
  "1Gujr 15Zzzz 4Gujr 2Zzzz 12Gujr 7Zzzz 7Gujr 1Zzzz 3Orya 1Zzzz 8Orya 2Zzzz 2Orya 2Zzzz 22Orya " ++
  "1Zzzz 7Orya 1Zzzz 2Orya 1Zzzz 5Orya 2Zzzz 9Orya 2Zzzz 2Orya 2Zzzz 3Orya 7Zzzz 3Orya 4Zzzz " ++
  "2Orya 1Zzzz 5Orya 2Zzzz 18Orya 10Zzzz 2Taml 1Zzzz 6Taml 3Zzzz 3Taml 1Zzzz 4Taml 3Zzzz 2Taml " ++
  "1Zzzz 1Taml 1Zzzz 2Taml 3Zzzz 2Taml 3Zzzz 3Taml 3Zzzz 12Taml 4Zzzz 5Taml 3Zzzz 3Taml 1Zzzz " ++
  "4Taml 2Zzzz 1Taml 6Zzzz 1Taml 14Zzzz 21Taml 5Zzzz 13Telu 1Zzzz 3Telu 1Zzzz 23Telu 1Zzzz " ++
  "16Telu 2Zzzz 9Telu 1Zzzz 3Telu 1Zzzz 4Telu 7Zzzz 2Telu 1Zzzz 3Telu 2Zzzz 1Telu 2Zzzz 4Telu " ++
  "2Zzzz 10Telu 7Zzzz 9Telu 13Knda 1Zzzz 3Knda 1Zzzz 23Knda 1Zzzz 10Knda 1Zzzz 5Knda 2Zzzz " ++
  "9Knda 1Zzzz 3Knda 1Zzzz 4Knda 7Zzzz 2Knda 6Zzzz 2Knda 1Zzzz 4Knda 2Zzzz 10Knda 1Zzzz 3Knda " ++
  "12Zzzz 13Mlym 1Zzzz 3Mlym 1Zzzz 51Mlym 1Zzzz 3Mlym 1Zzzz 6Mlym 4Zzzz 16Mlym 2Zzzz 26Mlym " ++
  "1Zzzz 3Sinh 1Zzzz 18Sinh 3Zzzz 24Sinh 1Zzzz 9Sinh 1Zzzz 1Sinh 2Zzzz 7Sinh 3Zzzz 1Sinh 4Zzzz " ++
  "6Sinh 1Zzzz 1Sinh 1Zzzz 8Sinh 6Zzzz 10Sinh 2Zzzz 3Sinh 12Zzzz 58Thai 4Zzzz 1Zyyy 28Thai " ++
  "37Zzzz 2Laoo 1Zzzz 1Laoo 1Zzzz 5Laoo 1Zzzz 24Laoo 1Zzzz 1Laoo 1Zzzz 23Laoo 2Zzzz 5Laoo 1Zzzz " ++
  "1Laoo 1Zzzz 7Laoo 1Zzzz 10Laoo 2Zzzz 4Laoo 32Zzzz 72Tibt 1Zzzz 36Tibt 4Zzzz 39Tibt 1Zzzz " ++
  "36Tibt 1Zzzz 15Tibt 1Zzzz 7Tibt 4Zyyy 2Tibt 37Zzzz 160Mymr 38Geor 1Zzzz 1Geor 5Zzzz 1Geor " ++
  "2Zzzz 43Geor 1Zyyy 4Geor 256Hang 73Ethi 1Zzzz 4Ethi 2Zzzz 7Ethi 1Zzzz 1Ethi 1Zzzz 4Ethi " ++
  "2Zzzz 41Ethi 1Zzzz 4Ethi 2Zzzz 33Ethi 1Zzzz 4Ethi 2Zzzz 7Ethi 1Zzzz 1Ethi 1Zzzz 4Ethi 2Zzzz " ++
  "15Ethi 1Zzzz 57Ethi 1Zzzz 4Ethi 2Zzzz 67Ethi 2Zzzz 32Ethi 3Zzzz 26Ethi 6Zzzz 86Cher 2Zzzz " ++
  "6Cher 2Zzzz 640Cans 29Ogam 3Zzzz 75Runr 3Zyyy 11Runr 7Zzzz 22Tglg 9Zzzz 1Tglg 21Hano 2Zyyy " ++
  "9Zzzz 20Buhd 12Zzzz 13Tagb 1Zzzz 3Tagb 1Zzzz 2Tagb 12Zzzz 94Khmr 2Zzzz 10Khmr 6Zzzz 10Khmr " ++
  "6Zzzz 2Mong 2Zyyy 1Mong 1Zyyy 20Mong 6Zzzz 89Mong 7Zzzz 43Mong 5Zzzz 70Cans 10Zzzz 31Limb " ++
  "1Zzzz 12Limb 4Zzzz 12Limb 4Zzzz 1Limb 3Zzzz 12Limb 30Tale 2Zzzz 5Tale 11Zzzz 44Talu 4Zzzz " ++
  "26Talu 6Zzzz 11Talu 3Zzzz 2Talu 32Khmr 28Bugi 2Zzzz 2Bugi 63Lana 1Zzzz 29Lana 2Zzzz 11Lana " ++
  "6Zzzz 10Lana 6Zzzz 14Lana 2Zzzz 31Zinh 49Zzzz 77Bali 1Zzzz 50Bali 64Sund 52Batk 8Zzzz 4Batk " ++
  "56Lepc 3Zzzz 15Lepc 3Zzzz 3Lepc 48Olck 11Cyrl 5Zzzz 43Geor 2Zzzz 3Geor 8Sund 8Zzzz 3Zinh " ++
  "1Zyyy 13Zinh 1Zyyy 7Zinh 4Zyyy 1Zinh 6Zyyy 1Zinh 3Zyyy 2Zinh 1Zyyy 5Zzzz 38Latn 5Grek 1Cyrl " ++
  "49Latn 5Grek 4Latn 5Grek 13Latn 1Cyrl 70Latn 1Grek 64Zinh 256Latn 22Grek 2Zzzz 6Grek 2Zzzz " ++
  "38Grek 2Zzzz 6Grek 2Zzzz 8Grek 1Zzzz 1Grek 1Zzzz 1Grek 1Zzzz 1Grek 1Zzzz 31Grek 2Zzzz 53Grek " ++
  "1Zzzz 15Grek 1Zzzz 14Grek 2Zzzz 6Grek 1Zzzz 19Grek 2Zzzz 3Grek 1Zzzz 9Grek 1Zzzz 12Zyyy " ++
  "2Zinh 87Zyyy 1Zzzz 11Zyyy 1Latn 2Zzzz 11Zyyy 1Latn 15Zyyy 1Zzzz 13Latn 3Zzzz 33Zyyy 15Zzzz " ++
  "33Zinh 15Zzzz 38Zyyy 1Grek 3Zyyy 2Latn 6Zyyy 1Latn 27Zyyy 1Latn 17Zyyy 41Latn 3Zyyy 4Zzzz " ++
  "666Zyyy 22Zzzz 11Zyyy 21Zzzz 928Zyyy 256Brai 628Zyyy 2Zzzz 32Zyyy 1Zzzz 105Zyyy 96Glag " ++
  "32Latn 116Copt 5Zzzz 7Copt 38Geor 1Zzzz 1Geor 5Zzzz 1Geor 2Zzzz 56Tfng 7Zzzz 2Tfng 14Zzzz " ++
  "1Tfng 23Ethi 9Zzzz 7Ethi 1Zzzz 7Ethi 1Zzzz 7Ethi 1Zzzz 7Ethi 1Zzzz 7Ethi 1Zzzz 7Ethi 1Zzzz " ++
  "7Ethi 1Zzzz 7Ethi 1Zzzz 32Cyrl 94Zyyy 34Zzzz 26Hani 1Zzzz 89Hani 12Zzzz 214Hani 26Zzzz " ++
  "21Zyyy 1Hani 1Zyyy 1Hani 25Zyyy 9Hani 4Zinh 2Hang 8Zyyy 4Hani 4Zyyy 1Zzzz 86Hira 2Zzzz 2Zinh " ++
  "2Zyyy 3Hira 1Zyyy 90Kana 2Zyyy 3Kana 5Zzzz 43Bopo 1Zzzz 94Hang 1Zzzz 16Zyyy 32Bopo 38Zyyy " ++
  "9Zzzz 1Zyyy 16Kana 31Hang 1Zzzz 64Zyyy 31Hang 81Zyyy 47Kana 1Zyyy 88Kana 168Zyyy 6592Hani " ++
  "64Zyyy 20992Hani 1165Yiii 3Zzzz 55Yiii 9Zzzz 48Lisu 300Vaii 20Zzzz 96Cyrl 88Bamu 8Zzzz " ++
  "34Zyyy 102Latn 3Zyyy 67Latn 2Zzzz 2Latn 1Zzzz 1Latn 1Zzzz 8Latn 21Zzzz 14Latn 45Sylo 3Zzzz " ++
  "10Zyyy 6Zzzz 56Phag 8Zzzz 70Saur 8Zzzz 12Saur 6Zzzz 32Deva 46Kali 1Zyyy 1Kali 36Rjng 11Zzzz " ++
  "1Rjng 29Hang 3Zzzz 78Java 1Zzzz 1Zyyy 10Java 4Zzzz 2Java 31Mymr 1Zzzz 55Cham 9Zzzz 14Cham " ++
  "2Zzzz 10Cham 2Zzzz 4Cham 32Mymr 67Tavt 24Zzzz 5Tavt 23Mtei 10Zzzz 6Ethi 2Zzzz 6Ethi 2Zzzz " ++
  "6Ethi 9Zzzz 7Ethi 1Zzzz 7Ethi 1Zzzz 43Latn 1Zyyy 9Latn 1Grek 4Latn 2Zyyy 4Zzzz 80Cher 46Mtei " ++
  "2Zzzz 10Mtei 6Zzzz 11172Hang 12Zzzz 23Hang 4Zzzz 49Hang 8452Zzzz 366Hani 2Zzzz 106Hani " ++
  "38Zzzz 7Latn 12Zzzz 5Armn 5Zzzz 26Hebr 1Zzzz 5Hebr 1Zzzz 1Hebr 1Zzzz 2Hebr 1Zzzz 2Hebr 1Zzzz " ++
  "10Hebr 115Arab 16Zzzz 363Arab 2Zyyy 80Arab 2Zzzz 54Arab 7Zzzz 1Arab 32Zzzz 16Arab 16Zinh " ++
  "10Zyyy 6Zzzz 14Zinh 2Cyrl 35Zyyy 1Zzzz 19Zyyy 1Zzzz 4Zyyy 4Zzzz 5Arab 1Zzzz 135Arab 2Zzzz " ++
  "1Zyyy 1Zzzz 32Zyyy 26Latn 6Zyyy 26Latn 11Zyyy 10Kana 1Zyyy 45Kana 2Zyyy 31Hang 3Zzzz 6Hang " ++
  "2Zzzz 6Hang 2Zzzz 6Hang 2Zzzz 3Hang 3Zzzz 7Zyyy 1Zzzz 7Zyyy 10Zzzz 5Zyyy 2Zzzz 12Linb 1Zzzz " ++
  "26Linb 1Zzzz 19Linb 1Zzzz 2Linb 1Zzzz 15Linb 2Zzzz 14Linb 34Zzzz 123Linb 5Zzzz 3Zyyy 4Zzzz " ++
  "45Zyyy 3Zzzz 9Zyyy 79Grek 1Zzzz 13Zyyy 3Zzzz 1Grek 47Zzzz 45Zyyy 1Zinh 130Zzzz 29Lyci 3Zzzz " ++
  "49Cari 15Zzzz 1Zinh 27Zyyy 4Zzzz 36Ital 9Zzzz 3Ital 27Goth 5Zzzz 43Perm 5Zzzz 30Ugar 1Zzzz " ++
  "1Ugar 36Xpeo 4Zzzz 14Xpeo 42Zzzz 80Dsrt 48Shaw 30Osma 2Zzzz 10Osma 6Zzzz 36Osge 4Zzzz 36Osge " ++
  "4Zzzz 40Elba 8Zzzz 52Aghb 11Zzzz 1Aghb 11Vith 1Zzzz 15Vith 1Zzzz 7Vith 1Zzzz 2Vith 1Zzzz " ++
  "11Vith 1Zzzz 15Vith 1Zzzz 7Vith 1Zzzz 2Vith 3Zzzz 52Todr 12Zzzz 311Lina 9Zzzz 22Lina 10Zzzz " ++
  "8Lina 24Zzzz 6Latn 1Zzzz 42Latn 1Zzzz 9Latn 69Zzzz 6Cprt 2Zzzz 1Cprt 1Zzzz 44Cprt 1Zzzz " ++
  "2Cprt 3Zzzz 1Cprt 2Zzzz 1Cprt 22Armi 1Zzzz 9Armi 32Palm 31Nbat 8Zzzz 9Nbat 48Zzzz 19Hatr " ++
  "1Zzzz 2Hatr 5Zzzz 5Hatr 28Phnx 3Zzzz 1Phnx 26Lydi 5Zzzz 1Lydi 64Zzzz 32Mero 24Merc 4Zzzz " ++
  "20Merc 2Zzzz 46Merc 4Khar 1Zzzz 2Khar 5Zzzz 8Khar 1Zzzz 3Khar 1Zzzz 29Khar 2Zzzz 3Khar 4Zzzz " ++
  "10Khar 7Zzzz 9Khar 7Zzzz 32Sarb 32Narb 32Zzzz 39Mani 4Zzzz 12Mani 9Zzzz 54Avst 3Zzzz 7Avst " ++
  "22Prti 2Zzzz 8Prti 19Phli 5Zzzz 8Phli 18Phlp 7Zzzz 4Phlp 12Zzzz 7Phlp 80Zzzz 73Orkh 55Zzzz " ++
  "51Hung 13Zzzz 51Hung 7Zzzz 6Hung 40Rohg 8Zzzz 10Rohg 6Zzzz 38Gara 3Zzzz 29Gara 8Zzzz 2Gara " ++
  "208Zzzz 31Arab 1Zzzz 42Yezi 1Zzzz 3Yezi 2Zzzz 2Yezi 16Zzzz 3Arab 55Zzzz 4Arab 40Sogo 8Zzzz " ++
  "42Sogd 22Zzzz 26Ougr 38Zzzz 28Chrs 20Zzzz 23Elym 9Zzzz 78Brah 4Zzzz 36Brah 9Zzzz 1Brah " ++
  "67Kthi 10Zzzz 1Kthi 2Zzzz 25Sora 7Zzzz 10Sora 6Zzzz 53Cakm 1Zzzz 18Cakm 8Zzzz 39Mahj 9Zzzz " ++
  "96Shrd 1Zzzz 20Sinh 11Zzzz 18Khoj 1Zzzz 47Khoj 62Zzzz 7Mult 1Zzzz 1Mult 1Zzzz 4Mult 1Zzzz " ++
  "15Mult 1Zzzz 11Mult 6Zzzz 59Sind 5Zzzz 10Sind 6Zzzz 4Gran 1Zzzz 8Gran 2Zzzz 2Gran 2Zzzz " ++
  "22Gran 1Zzzz 7Gran 1Zzzz 2Gran 1Zzzz 5Gran 1Zzzz 1Zinh 9Gran 2Zzzz 2Gran 2Zzzz 3Gran 2Zzzz " ++
  "1Gran 6Zzzz 1Gran 5Zzzz 7Gran 2Zzzz 7Gran 3Zzzz 5Gran 11Zzzz 10Tutg 1Zzzz 1Tutg 2Zzzz 1Tutg " ++
  "1Zzzz 38Tutg 1Zzzz 10Tutg 1Zzzz 1Tutg 2Zzzz 1Tutg 1Zzzz 4Tutg 1Zzzz 10Tutg 1Zzzz 2Tutg 8Zzzz " ++
  "2Tutg 29Zzzz 92Newa 1Zzzz 5Newa 30Zzzz 72Tirh 8Zzzz 10Tirh 166Zzzz 54Sidd 2Zzzz 38Sidd " ++
  "34Zzzz 69Modi 11Zzzz 10Modi 6Zzzz 13Mong 19Zzzz 58Takr 6Zzzz 10Takr 6Zzzz 20Mymr 28Zzzz " ++
  "27Ahom 2Zzzz 15Ahom 4Zzzz 23Ahom 185Zzzz 60Dogr 100Zzzz 83Wara 12Zzzz 1Wara 7Diak 2Zzzz " ++
  "1Diak 2Zzzz 8Diak 1Zzzz 2Diak 1Zzzz 30Diak 1Zzzz 2Diak 2Zzzz 12Diak 9Zzzz 10Diak 70Zzzz " ++
  "8Nand 2Zzzz 46Nand 2Zzzz 11Nand 27Zzzz 72Zanb 8Zzzz 83Soyo 13Zzzz 16Cans 57Pauc 7Zzzz 10Deva " ++
  "182Zzzz 34Sunu 14Zzzz 10Sunu 6Zzzz 9Bhks 1Zzzz 45Bhks 1Zzzz 14Bhks 10Zzzz 29Bhks 3Zzzz " ++
  "32Marc 2Zzzz 22Marc 1Zzzz 14Marc 73Zzzz 7Gonm 1Zzzz 2Gonm 1Zzzz 44Gonm 3Zzzz 1Gonm 1Zzzz " ++
  "2Gonm 1Zzzz 9Gonm 8Zzzz 10Gonm 6Zzzz 6Gong 1Zzzz 2Gong 1Zzzz 37Gong 1Zzzz 2Gong 1Zzzz 6Gong " ++
  "7Zzzz 10Gong 310Zzzz 25Maka 7Zzzz 17Kawi 1Zzzz 41Kawi 3Zzzz 29Kawi 85Zzzz 1Lisu 15Zzzz " ++
  "50Taml 13Zzzz 1Taml 922Xsux 102Zzzz 111Xsux 1Zzzz 5Xsux 11Zzzz 196Xsux 2636Zzzz 99Cpmn " ++
  "13Zzzz 1110Egyp 10Zzzz 3995Egyp 5Zzzz 583Hluw 6841Zzzz 58Gukh 1734Zzzz 569Bamu 7Zzzz 31Mroo " ++
  "1Zzzz 10Mroo 4Zzzz 2Mroo 79Tnsa 1Zzzz 10Tnsa 6Zzzz 30Bass 2Zzzz 6Bass 10Zzzz 70Hmng 10Zzzz " ++
  "10Hmng 1Zzzz 7Hmng 1Zzzz 21Hmng 5Zzzz 19Hmng 432Zzzz 58Krai 198Zzzz 91Medf 101Zzzz 75Plrd " ++
  "4Zzzz 57Plrd 7Zzzz 17Plrd 64Zzzz 1Tang 1Nshu 2Hani 1Kits 11Zzzz 2Hani 14Zzzz 6136Tang 8Zzzz " ++
  "768Tang 470Kits 41Zzzz 1Kits 9Tang 8935Zzzz 4Kana 1Zzzz 7Kana 1Zzzz 2Kana 1Zzzz 1Kana " ++
  "287Hira 3Kana 15Zzzz 1Hira 29Zzzz 3Hira 2Zzzz 1Kana 14Zzzz 4Kana 8Zzzz 396Nshu 2308Zzzz " ++
  "107Dupl 5Zzzz 13Dupl 3Zzzz 9Dupl 7Zzzz 10Dupl 2Zzzz 4Dupl 4Zyyy 3932Zzzz 250Zyyy 6Zzzz " ++
  "436Zyyy 76Zzzz 46Zinh 2Zzzz 23Zinh 9Zzzz 116Zyyy 60Zzzz 246Zyyy 10Zzzz 39Zyyy 2Zzzz 62Zyyy " ++
  "3Zinh 17Zyyy 8Zinh 2Zyyy 7Zinh 30Zyyy 4Zinh 61Zyyy 21Zzzz 70Grek 122Zzzz 20Zyyy 12Zzzz " ++
  "20Zyyy 12Zzzz 87Zyyy 9Zzzz 25Zyyy 135Zzzz 85Zyyy 1Zzzz 71Zyyy 1Zzzz 2Zyyy 2Zzzz 1Zyyy 2Zzzz " ++
  "2Zyyy 2Zzzz 4Zyyy 1Zzzz 12Zyyy 1Zzzz 1Zyyy 1Zzzz 7Zyyy 1Zzzz 65Zyyy 1Zzzz 4Zyyy 2Zzzz 8Zyyy " ++
  "1Zzzz 7Zyyy 1Zzzz 28Zyyy 1Zzzz 4Zyyy 1Zzzz 5Zyyy 1Zzzz 1Zyyy 3Zzzz 7Zyyy 1Zzzz 340Zyyy 2Zzzz " ++
  "292Zyyy 2Zzzz 50Zyyy 652Sgnw 15Zzzz 5Sgnw 1Zzzz 15Sgnw 1104Zzzz 31Latn 6Zzzz 6Latn 213Zzzz " ++
  "7Glag 1Zzzz 17Glag 2Zzzz 7Glag 1Zzzz 2Glag 1Zzzz 5Glag 5Zzzz 62Cyrl 33Zzzz 1Cyrl 112Zzzz " ++
  "45Hmnp 3Zzzz 14Hmnp 2Zzzz 10Hmnp 4Zzzz 2Hmnp 320Zzzz 31Toto 17Zzzz 58Wcho 5Zzzz 1Wcho " ++
  "464Zzzz 42Nagm 214Zzzz 43Onao 4Zzzz 1Onao 480Zzzz 7Ethi 1Zzzz 4Ethi 1Zzzz 2Ethi 1Zzzz 15Ethi " ++
  "1Zzzz 197Mend 2Zzzz 16Mend 41Zzzz 76Adlm 4Zzzz 10Adlm 4Zzzz 2Adlm 785Zzzz 68Zyyy 76Zzzz " ++
  "61Zyyy 194Zzzz 4Arab 1Zzzz 27Arab 1Zzzz 2Arab 1Zzzz 1Arab 2Zzzz 1Arab 1Zzzz 10Arab 1Zzzz " ++
  "4Arab 1Zzzz 1Arab 1Zzzz 1Arab 6Zzzz 1Arab 4Zzzz 1Arab 1Zzzz 1Arab 1Zzzz 1Arab 1Zzzz 3Arab " ++
  "1Zzzz 2Arab 1Zzzz 1Arab 2Zzzz 1Arab 1Zzzz 1Arab 1Zzzz 1Arab 1Zzzz 1Arab 1Zzzz 1Arab 1Zzzz " ++
  "2Arab 1Zzzz 1Arab 2Zzzz 4Arab 1Zzzz 7Arab 1Zzzz 4Arab 1Zzzz 4Arab 1Zzzz 1Arab 1Zzzz 10Arab " ++
  "1Zzzz 17Arab 5Zzzz 3Arab 1Zzzz 5Arab 1Zzzz 17Arab 52Zzzz 2Arab 270Zzzz 44Zyyy 4Zzzz 100Zyyy " ++
  "12Zzzz 15Zyyy 2Zzzz 15Zyyy 1Zzzz 15Zyyy 1Zzzz 37Zyyy 10Zzzz 174Zyyy 56Zzzz 26Zyyy 1Hira " ++
  "2Zyyy 13Zzzz 44Zyyy 4Zzzz 9Zyyy 7Zzzz 2Zyyy 14Zzzz 6Zyyy 154Zzzz 984Zyyy 4Zzzz 17Zyyy 3Zzzz " ++
  "13Zyyy 3Zzzz 119Zyyy 4Zzzz 95Zyyy 6Zzzz 12Zyyy 4Zzzz 1Zyyy 15Zzzz 12Zyyy 4Zzzz 56Zyyy 8Zzzz " ++
  "10Zyyy 6Zzzz 40Zyyy 8Zzzz 30Zyyy 2Zzzz 12Zyyy 4Zzzz 2Zyyy 62Zzzz 340Zyyy 12Zzzz 14Zyyy 2Zzzz " ++
  "13Zyyy 3Zzzz 10Zyyy 5Zzzz 56Zyyy 7Zzzz 15Zyyy 2Zzzz 11Zyyy 6Zzzz 9Zyyy 7Zzzz 147Zyyy 1Zzzz " ++
  "102Zyyy 1030Zzzz 42720Hani 32Zzzz 4154Hani 6Zzzz 222Hani 2Zzzz 5762Hani 14Zzzz 7473Hani " ++
  "15Zzzz 622Hani 2466Zzzz 542Hani 1506Zzzz 4939Hani 5Zzzz 4192Hani 711761Zzzz 1Zyyy 30Zzzz " ++
  "96Zyyy 128Zzzz 240Zinh 196112Zzzz"

def scripts : Partition := Partition.ofText scriptText

def script (c : Char) : String := scripts.labelOf c.toNat

/-- The code points that are used in other scripts than their own, with all of these scripts. -/
def scriptExtensionText : String :=
  "183-183:Avst,Cari,Copt,Dupl,Elba,Geor,Glag,Gong,Goth,Grek,Hani,Latn,Lydi,Mahj,Perm,Shaw " ++
  "700-700:Beng,Cyrl,Deva,Latn,Lisu,Thai,Toto 711-711:Bopo,Latn 713-715:Bopo,Latn " ++
  "717-717:Latn,Lisu 727-727:Latn,Thai 729-729:Bopo,Latn " ++
  "768-768:Cher,Copt,Cyrl,Grek,Latn,Perm,Sunu,Tale " ++
  "769-769:Cher,Cyrl,Grek,Latn,Osge,Sunu,Tale,Todr 770-770:Cher,Cyrl,Latn,Tfng " ++
  "771-771:Glag,Latn,Sunu,Syrc,Thai " ++
  "772-772:Aghb,Cher,Copt,Cyrl,Goth,Grek,Latn,Osge,Syrc,Tfng,Todr " ++
  "773-773:Copt,Elba,Glag,Goth,Kana,Latn 774-774:Cyrl,Grek,Latn,Perm " ++
  "775-775:Copt,Dupl,Hebr,Latn,Perm,Syrc,Tale,Tfng,Todr " ++
  "776-776:Armn,Cyrl,Dupl,Goth,Grek,Hebr,Latn,Perm,Syrc,Tale 777-777:Latn,Tfng " ++
  "778-778:Dupl,Latn,Syrc 779-779:Cher,Cyrl,Latn,Osge 780-780:Cher,Latn,Tale 781-781:Latn,Sunu " ++
  "782-782:Ethi,Latn 784-784:Latn,Sunu 785-785:Cyrl,Latn,Todr 787-787:Grek,Latn,Perm,Todr " ++
  "800-800:Latn,Syrc 803-803:Cher,Dupl,Kana,Latn,Syrc 804-804:Cher,Dupl,Latn,Syrc " ++
  "805-805:Latn,Syrc 813-813:Latn,Sunu,Syrc 814-814:Latn,Syrc 816-816:Cher,Latn,Syrc " ++
  "817-817:Aghb,Cher,Goth,Latn,Sunu,Thai 834-834:Grek 837-837:Grek 856-856:Latn,Osge " ++
  "862-862:Aghb,Latn,Todr 867-879:Latn 884-885:Copt,Grek 1155-1155:Cyrl,Perm " ++
  "1156-1156:Cyrl,Glag 1157-1158:Cyrl,Latn 1159-1159:Cyrl,Glag 1417-1417:Armn,Geor,Glag " ++
  "1548-1548:Arab,Gara,Nkoo,Rohg,Syrc,Thaa,Yezi 1563-1563:Arab,Gara,Nkoo,Rohg,Syrc,Thaa,Yezi " ++
  "1564-1564:Arab,Syrc,Thaa 1567-1567:Adlm,Arab,Gara,Nkoo,Rohg,Syrc,Thaa,Yezi " ++
  "1600-1600:Adlm,Arab,Mand,Mani,Ougr,Phlp,Rohg,Sogd,Syrc 1611-1621:Arab,Syrc " ++
  "1632-1641:Arab,Thaa,Yezi 1648-1648:Arab,Syrc 1748-1748:Arab,Rohg " ++
  "2385-2385:Beng,Deva,Gran,Gujr,Guru,Knda,Latn,Mlym,Orya,Shrd,Taml,Telu,Tirh " ++
  "2386-2386:Beng,Deva,Gran,Gujr,Guru,Knda,Latn,Mlym,Orya,Taml,Telu,Tirh " ++
  "2404-2404:Beng,Deva,Dogr,Gong,Gonm,Gran,Gujr,Guru,Knda,Mahj,Mlym,Nand,Onao,Orya,Sind,Sinh,Sylo,Takr,Taml,Telu,Tirh " ++
  "2405-2405:Beng,Deva,Dogr,Gong,Gonm,Gran,Gujr,Gukh,Guru,Knda,Limb,Mahj,Mlym,Nand,Onao,Orya,Sind,Sinh,Sylo,Takr,Taml,Telu,Tirh " ++
  "2406-2415:Deva,Dogr,Kthi,Mahj 2534-2543:Beng,Cakm,Sylo 2662-2671:Guru,Mult " ++
  "2790-2799:Gujr,Khoj 3046-3059:Gran,Taml 3302-3311:Knda,Nand,Tutg 4160-4169:Cakm,Mymr,Tale " ++
  "4347-4347:Geor,Glag,Latn 5867-5869:Runr 5941-5942:Buhd,Hano,Tagb,Tglg 6146-6147:Mong,Phag " ++
  "6149-6149:Mong,Phag 7376-7376:Beng,Deva,Gran,Knda 7377-7377:Deva " ++
  "7378-7378:Beng,Deva,Gran,Knda 7379-7379:Deva,Gran,Knda 7380-7380:Deva 7381-7382:Beng,Deva " ++
  "7383-7383:Deva,Shrd 7384-7384:Beng,Deva 7385-7385:Deva,Shrd " ++
  "7386-7386:Deva,Knda,Mlym,Orya,Taml,Telu 7387-7387:Deva 7388-7389:Deva,Shrd 7390-7391:Deva " ++
  "7392-7392:Deva,Shrd 7393-7393:Beng,Deva 7394-7400:Deva 7401-7401:Deva,Nand " ++
  "7402-7402:Beng,Deva 7403-7404:Deva 7405-7405:Beng,Deva 7406-7409:Deva " ++
  "7410-7410:Beng,Deva,Gran,Knda,Mlym,Nand,Orya,Sinh,Telu,Tirh,Tutg 7411-7411:Deva,Gran " ++
  "7412-7412:Deva,Gran,Knda,Tutg 7413-7414:Beng,Deva 7415-7415:Beng 7416-7417:Deva,Gran " ++
  "7418-7418:Nand 7616-7617:Grek 7672-7672:Cyrl,Latn,Syrc 7674-7674:Syrc " ++
  "8239-8239:Latn,Mong,Phag 8271-8271:Adlm,Arab 8282-8282:Cari,Geor,Glag,Hung,Lyci,Orkh " ++
  "8285-8285:Cari,Grek,Hung,Mero 8432-8432:Deva,Gran,Latn 11799-11799:Copt,Latn " ++
  "11824-11824:Avst,Orkh 11825-11825:Avst,Cari,Geor,Hung,Kthi,Lydi,Samr 11836-11836:Dupl " ++
  "11841-11841:Adlm,Arab,Hung 11843-11843:Cyrl,Glag 12272-12287:Hani,Tang " ++
  "12289-12289:Bopo,Hang,Hani,Hira,Kana,Mong,Yiii " ++
  "12290-12290:Bopo,Hang,Hani,Hira,Kana,Mong,Phag,Yiii 12291-12291:Bopo,Hang,Hani,Hira,Kana " ++
  "12294-12294:Hani 12296-12297:Bopo,Hang,Hani,Hira,Kana,Mong,Tibt,Yiii " ++
  "12298-12299:Bopo,Hang,Hani,Hira,Kana,Lisu,Mong,Tibt,Yiii " ++
  "12300-12305:Bopo,Hang,Hani,Hira,Kana,Yiii 12307-12307:Bopo,Hang,Hani,Hira,Kana " ++
  "12308-12315:Bopo,Hang,Hani,Hira,Kana,Yiii 12316-12319:Bopo,Hang,Hani,Hira,Kana " ++
  "12330-12333:Bopo,Hani 12336-12336:Bopo,Hang,Hani,Hira,Kana 12337-12341:Hira,Kana " ++
  "12343-12343:Bopo,Hang,Hani,Hira,Kana 12348-12349:Hani,Hira,Kana 12350-12351:Hani " ++
  "12441-12444:Hira,Kana 12448-12448:Hira,Kana 12539-12539:Bopo,Hang,Hani,Hira,Kana,Yiii " ++
  "12540-12540:Hira,Kana 12688-12703:Hani 12736-12773:Hani 12783-12783:Hani,Tang " ++
  "12832-12871:Hani 12928-12976:Hani 12992-13003:Hani 13055-13055:Hani 13144-13168:Hani " ++
  "13179-13183:Hani 13280-13310:Hani 42607-42607:Cyrl,Glag 42752-42759:Hani,Latn " ++
  "43056-43058:Deva,Dogr,Gujr,Guru,Khoj,Knda,Kthi,Mahj,Mlym,Modi,Nand,Shrd,Sind,Takr,Tirh,Tutg " ++
  "43059-43061:Deva,Dogr,Gujr,Guru,Khoj,Knda,Kthi,Mahj,Modi,Nand,Shrd,Sind,Takr,Tirh,Tutg " ++
  "43062-43063:Deva,Dogr,Gujr,Guru,Khoj,Kthi,Mahj,Modi,Sind,Takr,Tirh " ++
  "43064-43064:Deva,Dogr,Gujr,Guru,Khoj,Kthi,Mahj,Modi,Shrd,Sind,Takr,Tirh " ++
  "43065-43065:Deva,Dogr,Gujr,Guru,Khoj,Kthi,Mahj,Modi,Sind,Takr,Tirh " ++
  "43249-43249:Beng,Deva,Tutg 43251-43251:Deva,Taml 43310-43310:Kali,Latn,Mymr " ++
  "43471-43471:Bugi,Java 64830-64831:Arab,Nkoo 65010-65010:Arab,Thaa 65021-65021:Arab,Thaa " ++
  "65093-65094:Bopo,Hang,Hani,Hira,Kana 65377-65381:Bopo,Hang,Hani,Hira,Kana,Yiii " ++
  "65392-65392:Hira,Kana 65438-65439:Hira,Kana 65792-65793:Cpmn,Cprt,Linb 65794-65794:Cprt,Linb " ++
  "65799-65843:Cprt,Lina,Linb 65847-65855:Cprt,Linb 66272-66299:Arab,Copt 68338-68338:Mani,Ougr " ++
  "70401-70401:Gran,Taml 70403-70403:Gran,Taml 70459-70460:Gran,Taml 73680-73681:Gran,Taml " ++
  "73683-73683:Gran,Taml 113824-113827:Dupl 119648-119665:Hani 127568-127569:Hani"

/-- Read a range of code points with a list of labels. -/
def readExtension (text : String) : Nat × Nat × List String :=
  match text.splitOn ":" with
  | [range, labels] =>
    match range.splitOn "-" with
    | [low, high] => (low.toNat?.getD 0, high.toNat?.getD 0, labels.splitOn ",")
    | _           => (0, 0, [])
  | _ => (0, 0, [])

/-- The code points that are used in other scripts than their own. -/
def scriptExtensions : List (Nat × Nat × List String) :=
  (scriptExtensionText.splitOn " ").map readExtension

/-- Whether a character is used in a script. -/
def usedInScript (code : String) (c : Char) : Bool :=
  match scriptExtensions.find? fun (low, high, _) => low ≤ c.toNat && c.toNat ≤ high with
  | some (_, _, codes) => codes.contains code
  | none               => script c == code

/-- The code points that are used in a script. -/
def usedInScriptSet (code : String) : CodeSet :=
  let shared := CodeSet.ofRanges (scriptExtensions.map fun (low, high, _) => (low, high))
  let extended := CodeSet.ofRanges (scriptExtensions.filterMap fun (low, high, codes) =>
    if codes.contains code then some (low, high) else none)
  ((scripts.select [code]).minus shared).union extended

/-- The codes of the scripts, each with its names in lower case without separators. -/
def scriptNameText : String :=
  "Adlm:adlam,adlm Aghb:aghb,caucasianalbanian Ahom:ahom Arab:arab,arabic " ++
  "Armi:armi,imperialaramaic Armn:armenian,armn Avst:avestan,avst Bali:bali,balinese " ++
  "Bamu:bamu,bamum Bass:bass,bassavah Batk:batak,batk Beng:beng,bengali Bhks:bhaiksuki,bhks " ++
  "Bopo:bopo,bopomofo Brah:brah,brahmi Brai:brai,braille Bugi:bugi,buginese Buhd:buhd,buhid " ++
  "Cakm:cakm,chakma Cans:canadianaboriginal,cans Cari:cari,carian Cham:cham Cher:cher,cherokee " ++
  "Chrs:chorasmian,chrs Copt:copt,coptic,qaac Cpmn:cpmn,cyprominoan Cprt:cprt,cypriot " ++
  "Cyrl:cyrillic,cyrl Deva:deva,devanagari Diak:diak,divesakuru Dogr:dogr,dogra " ++
  "Dsrt:deseret,dsrt Dupl:dupl,duployan Egyp:egyp,egyptianhieroglyphs Elba:elba,elbasan " ++
  "Elym:elym,elymaic Ethi:ethi,ethiopic Gara:gara,garay Geor:geor,georgian Glag:glag,glagolitic " ++
  "Gong:gong,gunjalagondi Gonm:gonm,masaramgondi Goth:goth,gothic Gran:gran,grantha " ++
  "Grek:greek,grek Gujr:gujarati,gujr Gukh:gukh,gurungkhema Guru:gurmukhi,guru Hang:hang,hangul " ++
  "Hani:han,hani Hano:hano,hanunoo Hatr:hatr,hatran Hebr:hebr,hebrew Hira:hira,hiragana " ++
  "Hluw:anatolianhieroglyphs,hluw Hmng:hmng,pahawhhmong Hmnp:hmnp,nyiakengpuachuehmong " ++
  "Hung:hung,oldhungarian Ital:ital,olditalic Java:java,javanese Kali:kali,kayahli " ++
  "Kana:kana,katakana Kawi:kawi Khar:khar,kharoshthi Khmr:khmer,khmr Khoj:khoj,khojki " ++
  "Kits:khitansmallscript,kits Knda:kannada,knda Krai:kiratrai,krai Kthi:kaithi,kthi " ++
  "Lana:lana,taitham Laoo:lao,laoo Latn:latin,latn Lepc:lepc,lepcha Limb:limb,limbu " ++
  "Lina:lina,lineara Linb:linb,linearb Lisu:lisu Lyci:lyci,lycian Lydi:lydi,lydian " ++
  "Mahj:mahajani,mahj Maka:maka,makasar Mand:mand,mandaic Mani:mani,manichaean " ++
  "Marc:marc,marchen Medf:medefaidrin,medf Mend:mend,mendekikakui Merc:merc,meroiticcursive " ++
  "Mero:mero,meroitichieroglyphs Mlym:malayalam,mlym Modi:modi Mong:mong,mongolian " ++
  "Mroo:mro,mroo Mtei:meeteimayek,mtei Mult:mult,multani Mymr:myanmar,mymr Nagm:nagm,nagmundari " ++
  "Nand:nand,nandinagari Narb:narb,oldnortharabian Nbat:nabataean,nbat Newa:newa Nkoo:nko,nkoo " ++
  "Nshu:nshu,nushu Ogam:ogam,ogham Olck:olchiki,olck Onao:olonal,onao Orkh:oldturkic,orkh " ++
  "Orya:oriya,orya Osge:osage,osge Osma:osma,osmanya Ougr:olduyghur,ougr Palm:palm,palmyrene " ++
  "Pauc:pauc,paucinhau Perm:oldpermic,perm Phag:phag,phagspa Phli:inscriptionalpahlavi,phli " ++
  "Phlp:phlp,psalterpahlavi Phnx:phnx,phoenician Plrd:miao,plrd Prti:inscriptionalparthian,prti " ++
  "Rjng:rejang,rjng Rohg:hanifirohingya,rohg Runr:runic,runr Samr:samaritan,samr " ++
  "Sarb:oldsoutharabian,sarb Saur:saur,saurashtra Sgnw:sgnw,signwriting Shaw:shavian,shaw " ++
  "Shrd:sharada,shrd Sidd:sidd,siddham Sind:khudawadi,sind Sinh:sinh,sinhala Sogd:sogd,sogdian " ++
  "Sogo:oldsogdian,sogo Sora:sora,sorasompeng Soyo:soyo,soyombo Sund:sund,sundanese " ++
  "Sunu:sunu,sunuwar Sylo:sylo,sylotinagri Syrc:syrc,syriac Tagb:tagb,tagbanwa Takr:takr,takri " ++
  "Tale:taile,tale Talu:newtailue,talu Taml:tamil,taml Tang:tang,tangut Tavt:taiviet,tavt " ++
  "Telu:telu,telugu Tfng:tfng,tifinagh Tglg:tagalog,tglg Thaa:thaa,thaana Thai:thai " ++
  "Tibt:tibetan,tibt Tirh:tirh,tirhuta Tnsa:tangsa,tnsa Todr:todhri,todr Toto:toto " ++
  "Tutg:tulutigalari,tutg Ugar:ugar,ugaritic Vaii:vai,vaii Vith:vith,vithkuqi " ++
  "Wara:wara,warangciti Wcho:wancho,wcho Xpeo:oldpersian,xpeo Xsux:cuneiform,xsux " ++
  "Yezi:yezi,yezidi Yiii:yi,yiii Zanb:zanabazarsquare,zanb Zinh:inherited,qaai,zinh " ++
  "Zyyy:common,zyyy"

/-- The codes of the scripts with their names. -/
def scriptNames : List (String × List String) :=
  (scriptNameText.splitOn " ").map fun entry =>
    match entry.splitOn ":" with
    | [code, names] => (code, names.splitOn ",")
    | _             => (entry, [])

/-- The code of the script with a name in lower case without separators. -/
def scriptCode? (name : String) : Option String :=
  (scriptNames.find? fun (_, names) => names.contains name).map (·.1)

end Unicode

end Daybook
