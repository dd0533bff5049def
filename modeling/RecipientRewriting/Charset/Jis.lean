import RecipientRewriting.Charset.Basic

/-!
# The Japanese character sets

The main set with the extensions of vendors and the supplementary set, in rows of
94 characters.
-/

namespace RecipientRewriting.Charset

/-- The main set, JIS X 0208 with the extensions of vendors. -/
def jis0208Table : CodeTable :=
  [(0,
      "3000-3002 FF0C FF0E 30FB FF1A-FF1B FF1F FF01 309B-309C B4 FF40 A8 FF3E FFE3 FF3F 30FD-30FE
       309D-309E 3003 4EDD 3005-3007 30FC 2015 2010 FF0F FF3C FF5E 2225 FF5C 2026 2025 2018-2019
       201C-201D FF08-FF09 3014-3015 FF3B FF3D FF5B FF5D 3008-3011 FF0B FF0D B1 D7 F7 FF1D 2260
       FF1C FF1E 2266-2267 221E 2234 2642 2640 B0 2032-2033 2103 FFE5 FF04 FFE0-FFE1 FF05 FF03
       FF06 FF0A FF20 A7 2606 2605 25CB 25CF 25CE 25C7 25C6 25A1 25A0 25B3 25B2 25BD 25BC 203B
       3012 2192 2190-2191 2193 3013"),
   (119,
      "2208 220B 2286-2287 2282-2283 222A 2229"),
   (135,
      "2227-2228 FFE2 21D2 21D4 2200 2203"),
   (153,
      "2220 22A5 2312 2202 2207 2261 2252 226A-226B 221A 223D 221D 2235 222B-222C FFFD FFFD FFFD
       FFFD FFFD FFFD FFFD 212B 2030 266F 266D 266A 2020-2021 B6 FFFD FFFD FFFD FFFD 25EF"),
   (203,
      "FF10-FF19 FFFD FFFD FFFD FFFD FFFD FFFD FFFD FF21-FF3A FFFD FFFD FFFD FFFD FFFD FFFD
       FF41-FF5A FFFD FFFD FFFD FFFD 3041-3093"),
   (376,
      "30A1-30F6"),
   (470,
      "391-3A1 3A3-3A9"),
   (502,
      "3B1-3C1 3C3-3C9"),
   (564,
      "410-415 401 416-42F"),
   (612,
      "430-435 451 436-44F"),
   (658,
      "2500 2502 250C 2510 2518 2514 251C 252C 2524 2534 253C 2501 2503 250F 2513 251B 2517 2523
       2533 252B 253B 254B 2520 252F 2528 2537 253F 251D 2530 2525 2538 2542"),
   (1128,
      "2460-2473 2160-2169 FFFD 3349 3314 3322 334D 3318 3327 3303 3336 3351 3357 330D 3326 3323
       332B 334A 333B 339C-339E 338E-338F 33C4 33A1"),
   (1190,
      "337B 301D 301F 2116 33CD 2121 32A4-32A8 3231-3232 3239 337E 337D 337C 2252 2261 222B 222E
       2211 221A 22A5 2220 221F 22BF 2235 2229-222A"),
   (1410,
      "4E9C 5516 5A03 963F 54C0 611B 6328 59F6 9022 8475 831C 7A50 60AA 63E1 6E25 65ED 8466 82A6
       9BF5 6893 5727 65A1 6271 5B9B 59D0 867B 98F4 7D62 7DBE 9B8E 6216 7C9F 88B7 5B89 5EB5 6309
       6697 6848 95C7 978D 674F 4EE5 4F0A 4F4D 4F9D 5049 56F2 5937 59D4 5A01 5C09 60DF 610F 6170
       6613 6905 70BA 754F 7570 79FB 7DAD 7DEF 80C3 840E 8863 8B02 9055 907A 533B 4E95 4EA5 57DF
       80B2 90C1 78EF 4E00 58F1 6EA2 9038 7A32 8328 828B 9C2F 5141 5370 54BD 54E1 56E0 59FB 5F15
       98F2 6DEB 80E4 852D 9662 9670 96A0 97FB 540B 53F3 5B87 70CF 7FBD 8FC2 96E8 536F 9D5C 7ABA
       4E11 7893 81FC 6E26 5618 5504 6B1D 851A 9C3B 59E5 53A9 6D66 74DC 958F 5642 4E91 904B 96F2
       834F 990C 53E1 55B6 5B30 5F71 6620 66F3 6804 6C38 6CF3 6D29 745B 76C8 7A4E 9834 82F1 885B
       8A60 92ED 6DB2 75AB 76CA 99C5 60A6 8B01 8D8A 95B2 698E 53AD 5186 5712 5830 5944 5BB4 5EF6
       6028 63A9 63F4 6CBF 6F14 708E 7114 7159 71D5 733F 7E01 8276 82D1 8597 9060 925B 9D1B 5869
       65BC 6C5A 7525 51F9 592E 5965 5F80 5FDC 62BC 65FA 6A2A 6B27 6BB4 738B 7FC1 8956 9D2C 9D0E
       9EC4 5CA1 6C96 837B 5104 5C4B 61B6 81C6 6876 7261 4E59 4FFA 5378 6069 6E29 7A4F 97F3 4E0B
       5316 4EEE 4F55 4F3D 4FA1 4F73 52A0 53EF 5609 590F 5AC1 5BB6 5BE1 79D1 6687 679C 67B6 6B4C
       6CB3 706B 73C2 798D 79BE 7A3C 7B87 82B1 82DB 8304 8377 83EF 83D3 8766 8AB2 5629 8CA8 8FE6
       904E 971E 868A 4FC4 5CE8 6211 7259 753B 81E5 82BD 86FE 8CC0 96C5 9913 99D5 4ECB 4F1A 89E3
       56DE 584A 58CA 5EFB 5FEB 602A 6094 6062 61D0 6212 62D0 6539 9B41 6666 68B0 6D77 7070 754C
       7686 7D75 82A5 87F9 958B 968E 8C9D 51F1 52BE 5916 54B3 5BB3 5D16 6168 6982 6DAF 788D 84CB
       8857 8A72 93A7 9AB8 6D6C 99A8 86D9 57A3 67FF 86CE 920E 5283 5687 5404 5ED3 62E1 64B9 683C
       6838 6BBB 7372 78BA 7A6B 899A 89D2 8D6B 8F03 90ED 95A3 9694 9769 5B66 5CB3 697D 984D-984E
       639B 7B20 6A2B 6A7F 68B6 9C0D 6F5F 5272 559D 6070 62EC 6D3B 6E07 6ED1 845B 8910 8F44 4E14
       9C39 53F6 691B 6A3A 9784 682A 515C 7AC3 84B2 91DC 938C 565B 9D28 6822 8305 8431 7CA5 5208
       82C5 74E6 4E7E 4F83 51A0 5BD2 520A 52D8 52E7 5DFB 559A 582A 59E6 5B8C 5B98 5BDB 5E72 5E79
       60A3 611F 6163 61BE 63DB 6562 67D1 6853 68FA 6B3E 6B53 6C57 6F22 6F97 6F45 74B0 7518 76E3
       770B 7AFF 7BA1 7C21 7DE9 7F36 7FF0 809D 8266 839E 89B3 8ACC 8CAB 9084 9451 9593 9591 95A2
       9665 97D3 9928 8218 4E38 542B 5CB8 5DCC 73A9 764C 773C 5CA9 7FEB 8D0B 96C1 9811 9854 9858
       4F01 4F0E 5371 559C 5668 57FA 5947 5B09 5BC4 5C90 5E0C 5E7E 5FCC 63EE 673A 65D7 65E2 671F
       68CB 68C4 6A5F 5E30 6BC5 6C17 6C7D 757F 7948 5B63 7A00 7D00 5FBD 898F 8A18 8CB4 8D77 8ECC
       8F1D 98E2 9A0E 9B3C 4E80 507D 5100 5993 5B9C 622F 6280 64EC 6B3A 72A0 7591 7947 7FA9 87FB
       8ABC 8B70 63AC 83CA 97A0 5409 5403 55AB 6854 6A58 8A70 7827 6775 9ECD 5374 5BA2 811A 8650
       9006 4E18 4E45 4EC7 4F11 53CA 5438 5BAE 5F13 6025 6551 673D 6C42 6C72 6CE3 7078 7403 7A76
       7AAE 7B08 7D1A 7CFE 7D66 65E7 725B 53BB 5C45 5DE8 62D2 62E0 6319 6E20 865A 8A31 8DDD 92F8
       6F01 79A6 9B5A 4EA8 4EAB-4EAC 4F9B 4FA0 50D1 5147 7AF6 5171 51F6 5354 5321 537F 53EB 55AC
       5883 5CE1 5F37 5F4A 602F 6050 606D 631F 6559 6A4B 6CC1 72C2 72ED 77EF 80F8 8105 8208 854E
       90F7 93E1 97FF 9957 9A5A 4EF0 51DD 5C2D 6681 696D 5C40 66F2 6975 7389 6850 7C81 50C5 52E4
       5747 5DFE 9326 65A4 6B23 6B3D 7434 7981 79BD 7B4B 7DCA 82B9 83CC 887F 895F 8B39 8FD1 91D1
       541F 9280 4E5D 5036 53E5 533A 72D7 7396 77E9 82E6 8EAF 99C6 99C8 99D2 5177 611A 865E 55B0
       7A7A 5076 5BD3 9047 9685 4E32 6ADB 91E7 5C51 5C48 6398 7A9F 6C93 9774 8F61 7AAA 718A 9688
       7C82 6817 7E70 6851 936C 52F2 541B 85AB 8A13 7FA4 8ECD 90E1 5366 8888 7941 4FC2 50BE 5211
       5144 5553 572D 73EA 578B 5951 5F62 5F84 6075 6176 6167 61A9 63B2 643A 656C 666F 6842 6E13
       7566 7A3D 7CFB 7D4C 7D99 7E4B 7F6B 830E 834A 86CD 8A08 8A63 8B66 8EFD 981A 9D8F 82B8 8FCE
       9BE8 5287 621F 6483 6FC0 9699 6841 5091 6B20 6C7A 6F54 7A74 7D50 8840 8A23 6708 4EF6 5039
       5026 5065 517C 5238 5263 55A7 570F 5805 5ACC 5EFA 61B2 61F8 62F3 6372 691C 6A29 727D 72AC
       732E 7814 786F 7D79 770C 80A9 898B 8B19 8CE2 8ED2 9063 9375 967A 9855 9A13 9E78 5143 539F
       53B3 5E7B 5F26 6E1B 6E90 7384 73FE 7D43 8237 8A00 8AFA 9650 4E4E 500B 53E4 547C 56FA 59D1
       5B64 5DF1 5EAB 5F27 6238 6545 67AF 6E56 72D0 7CCA 88B4 80A1 80E1 83F0 864E 8A87 8DE8 9237
       96C7 9867 9F13 4E94 4E92 4F0D 5348 5449 543E 5A2F 5F8C 5FA1 609F 68A7 6A8E 745A 7881 8A9E
       8AA4 8B77 9190 4E5E 9BC9 4EA4 4F7C 4FAF 5019 5016 5149 516C 529F 52B9 52FE 539A 53E3 5411
       540E 5589 5751 57A2 597D 5B54 5B5D 5B8F 5DE5 5DE7 5DF7 5E78 5E83 5E9A 5EB7 5F18 6052 614C
       6297 62D8 63A7 653B 6602 6643 66F4 676D 6821 6897 69CB 6C5F 6D2A 6D69 6E2F 6E9D 7532 7687
       786C 7A3F 7CE0 7D05 7D18 7D5E 7DB1 8015 8003 80AF 80B1 8154 818F 822A 8352 884C 8861 8B1B
       8CA2 8CFC 90CA 9175 9271 783F 92FC 95A4 964D 9805 9999 9AD8 9D3B 525B 52AB 53F7 5408 58D5
       62F7 6FE0 8C6A 8F5F 9EB9 514B 523B 544A 56FD 7A40 9177 9D60 9ED2 7344 6F09 8170 7511 5FFD
       60DA 9AA8 72DB 8FBC 6B64 9803 4ECA 56F0 5764 58BE 5A5A 6068 61C7 660F 6606 6839 68B1 6DF7
       75D5 7D3A 826E 9B42 4E9B 4F50 53C9 5506 5D6F 5DE6 5DEE 67FB 6C99 7473 7802 8A50 9396 88DF
       5750 5EA7 632B 50B5 50AC 518D 6700 54C9 585E 59BB 5BB0 5F69 624D 63A1 683D 6B73 6E08 707D
       91C7 7280 7815 7826 796D 658E 7D30 83DC 88C1 8F09 969B 5264 5728 6750 7F6A 8CA1 51B4 5742
       962A 583A 698A 80B4 54B2 5D0E 57FC 7895 9DFA 4F5C 524A 548B 643E 6628 6714 67F5 7A84 7B56
       7D22 932F 685C 9BAD 7B39 5319 518A 5237 5BDF 62F6 64AE 64E6 672D 6BBA 85A9 96D1 7690 9BD6
       634C 9306 9BAB 76BF 6652 4E09 5098 53C2 5C71 60E8 6492 6563 685F 71E6 73CA 7523 7B97 7E82
       8695 8B83 8CDB 9178 9910 65AC 66AB 6B8B 4ED5 4ED4 4F3A 4F7F 523A 53F8 53F2 55E3 56DB 58EB
       59CB 59C9 59FF 5B50 5C4D 5E02 5E2B 5FD7 601D 6307 652F 5B5C 65AF 65BD 65E8 679D 6B62 6B7B
       6C0F 7345 7949 79C1 7CF8 7D19 7D2B 80A2 8102 81F3 8996 8A5E 8A69 8A66 8A8C 8AEE 8CC7 8CDC
       96CC 98FC 6B6F 4E8B 4F3C 4F8D 5150 5B57 5BFA 6148 6301 6642 6B21 6ECB 6CBB 723E 74BD 75D4
       78C1 793A 800C 8033 81EA 8494 8F9E 6C50 9E7F 5F0F 8B58 9D2B 7AFA 8EF8 5B8D 96EB 4E03 53F1
       57F7 5931 5AC9 5BA4 6089 6E7F 6F06 75BE 8CEA 5B9F 8500 7BE0 5072 67F4 829D 5C61 854A 7E1E
       820E 5199 5C04 6368 8D66 659C 716E 793E 7D17 8005 8B1D 8ECA 906E 86C7 90AA 501F 52FA 5C3A
       6753 707C 7235 914C 91C8 932B 82E5 5BC2 5F31 60F9 4E3B 53D6 5B88 624B 6731 6B8A 72E9 73E0
       7A2E 816B 8DA3 9152 9996 5112 53D7 546A 5BFF 6388 6A39 7DAC 9700 56DA 53CE 5468 5B97 5C31
       5DDE 4FEE 6101 62FE 6D32 79C0 79CB 7D42 7E4D 7FD2 81ED 821F 8490 8846 8972 8B90 8E74 8F2F
       9031 914B 916C 96C6 919C 4EC0 4F4F 5145 5341 5F93 620E 67D4 6C41 6E0B 7363 7E26 91CD 9283
       53D4 5919 5BBF 6DD1 795D 7E2E 7C9B 587E 719F 51FA 8853 8FF0 4FCA 5CFB 6625 77AC 7AE3 821C
       99FF 51C6 5FAA 65EC 696F 6B89 6DF3 6E96 6F64 76FE 7D14 5DE1 9075 9187 9806 51E6 521D 6240
       6691 66D9 6E1A 5EB6 7DD2 7F72 66F8 85AF 85F7 8AF8 52A9 53D9 5973 5E8F 5F90 6055 92E4 9664
       50B7 511F 52DD 5320 5347 53EC 54E8 5546 5531 5617 5968 59BE 5A3C 5BB5 5C06 5C0F 5C11 5C1A
       5E84 5E8A 5EE0 5F70 627F 6284 62DB 638C 6377 6607 660C 662D 6676 677E 68A2 6A1F 6A35 6CBC
       6D88 6E09 6E58 713C 7126 7167 75C7 7701 785D 7901 7965 79F0 7AE0 7B11 7CA7 7D39 8096 83D6
       848B 8549 885D 88F3 8A1F 8A3C 8A54 8A73 8C61 8CDE 91A4 9266 937E 9418 969C 9798 4E0A 4E08
       4E1E 4E57 5197 5270 57CE 5834 58CC 5B22 5E38 60C5 64FE 6761 6756 6D44 72B6 7573 7A63 84B8
       8B72 91B8 9320 5631 57F4 98FE 62ED 690D 6B96 71ED 7E54 8077 8272 89E6 98DF 8755 8FB1 5C3B
       4F38 4FE1 4FB5 5507 5A20 5BDD 5BE9 5FC3 614E 632F 65B0 664B 68EE 699B 6D78 6DF1 7533 75B9
       771F 795E 79E6 7D33 81E3 82AF 85AA 89AA 8A3A 8EAB 8F9B 9032 91DD 9707 4EBA 4EC1 5203 5875
       58EC 5C0B 751A 5C3D 814E 8A0A 8FC5 9663 976D 7B25 8ACF 9808 9162 56F3 53A8 9017 5439 5782
       5E25 63A8 6C34 708A 7761 7C8B 7FE0 8870 9042 9154 9310 9318 968F 745E 9AC4 5D07 5D69 6570
       67A2 8DA8 96DB 636E 6749 6919 83C5 9817 96C0 88FE 6F84 647A 5BF8 4E16 702C 755D 662F 51C4
       5236 52E2 59D3 5F81 6027 6210 653F 6574 661F 6674 68F2 6816 6B63 6E05 7272 751F 76DB 7CBE
       8056 58F0 88FD 897F 8AA0 8A93 8ACB 901D 9192 9752 9759 6589 7A0E 8106 96BB 5E2D 60DC 621A
       65A5 6614 6790 77F3 7A4D 7C4D 7E3E 810A 8CAC 8D64 8DE1 8E5F 78A9 5207 62D9 63A5 6442 6298
       8A2D 7A83 7BC0 8AAC 96EA 7D76 820C 8749 4ED9 5148 5343 5360 5BA3 5C02 5C16 5DDD 6226 6247
       64B0 6813 6834 6CC9 6D45 6D17 67D3 6F5C 714E 717D 65CB 7A7F 7BAD 7DDA 7E4A 7FA8 817A 821B
       8239 85A6 8A6E 8CCE 8DF5 9078 9077 92AD 9291 9583 9BAE 524D 5584 6F38 7136 5168 7985 7E55
       81B3 7CCE 564C 5851 5CA8 63AA 66FE 66FD 695A 72D9 758F 758E 790E 7956 79DF 7C97 7D20 7D44
       8607 8A34 963B 9061 9F20 50E7 5275 53CC 53E2 5009 55AA 58EE 594F 723D 5B8B 5C64 531D 60E3
       60F3 635C 6383 633F 63BB 64CD 65E9 66F9 5DE3 69CD 69FD 6F15 71E5 4E89 75E9 76F8 7A93 7CDF
       7DCF 7D9C 8061 8349 8358 846C 84BC 85FB 88C5 8D70 9001 906D 9397 971C 9A12 50CF 5897 618E
       81D3 8535 8D08 9020 4FC3 5074 5247 5373 606F 6349 675F 6E2C 8DB3 901F 4FD7 5C5E 8CCA 65CF
       7D9A 5352 8896 5176 63C3 5B58 5B6B 5C0A 640D 6751 905C 4ED6 591A 592A 6C70 8A51 553E 5815
       59A5 60F0 6253 67C1 8235 6955 9640 99C4 9A28 4F53 5806 5BFE 8010 5CB1 5E2F 5F85 6020 614B
       6234 66FF 6CF0 6EDE 80CE 817F 82D4 888B 8CB8 9000 902E 968A 9EDB 9BDB 4EE3 53F0 5927 7B2C
       918D 984C 9DF9 6EDD 7027 5353 5544 5B85 6258 629E 62D3 6CA2 6FEF 7422 8A17 9438 6FC1 8AFE
       8338 51E7 86F8 53EA 53E9 4F46 9054 8FB0 596A 8131 5DFD 7AEA 8FBF 68DA 8C37 72F8 9C48 6A3D
       8AB0 4E39 5358 5606 5766 62C5 63A2 65E6 6B4E 6DE1 6E5B 70AD 77ED 7AEF 7BAA 7DBB 803D 80C6
       86CB 8A95 935B 56E3 58C7 5F3E 65AD 6696 6A80 6BB5 7537 8AC7 5024 77E5 5730 5F1B 6065 667A
       6C60 75F4 7A1A 7F6E 81F4 8718 9045 99B3 7BC9 755C 7AF9 7B51 84C4 9010 79E9 7A92 8336 5AE1
       7740 4E2D 4EF2 5B99 5FE0 62BD 663C 67F1 6CE8 866B 8877 8A3B 914E 92F3 99D0 6A17 7026 732A
       82E7 8457 8CAF 4E01 5146 51CB 558B 5BF5 5E16 5E33 5E81 5F14 5F35 5F6B 5FB4 61F2 6311 66A2
       671D 6F6E 7252 753A 773A 8074 8139 8178 8776 8ABF 8ADC 8D85 8DF3 929A 9577 9802 9CE5 52C5
       6357 76F4 6715 6C88 73CD 8CC3 93AE 9673 6D25 589C 690E 69CC 8FFD 939A 75DB 901A 585A 6802
       63B4 69FB 4F43 6F2C 67D8 8FBB 8526 7DB4 9354 693F 6F70 576A 58F7 5B2C 7D2C 722A 540A 91E3
       9DB4 4EAD 4F4E 505C 5075 5243 8C9E 5448 5824 5B9A 5E1D 5E95 5EAD 5EF7 5F1F 608C 62B5 633A
       63D0 68AF 6C40 7887 798E 7A0B 7DE0 8247 8A02 8AE6 8E44 9013 90B8 912D 91D8 9F0E 6CE5 6458
       64E2 6575 6EF4 7684 7B1B 9069 93D1 6EBA 54F2 5FB9 64A4 8F4D 8FED 9244 5178 586B 5929 5C55
       5E97 6DFB 7E8F 751C 8CBC 8EE2 985B 70B9 4F1D 6BBF 6FB1 7530 96FB 514E 5410 5835 5857 59AC
       5C60 5F92 6597 675C 6E21 767B 83DF 8CED 9014 90FD 934D 7825 783A 52AA 5EA6 571F 5974 6012
       5012 515A 51AC 51CD 5200 5510 5854 5858 5957 5B95 5CF6 5D8B 60BC 6295 642D 6771 6843 68BC
       68DF 76D7 6DD8 6E6F 6D9B 706F 71C8 5F53 75D8 7977 7B49 7B54 7B52 7CD6 7D71 5230 8463 8569
       85E4 8A0E 8B04 8C46 8E0F 9003 900F 9419 9676 982D 9A30 95D8 50CD 52D5 540C 5802 5C0E 61A7
       649E 6D1E 77B3 7AE5 80F4 8404 9053 9285 5CE0 9D07 533F 5F97 5FB3 6D9C 7279 7763 79BF 7BE4
       6BD2 72EC 8AAD 6803 6A61 51F8 7A81 6934 5C4A 9CF6 82EB 5BC5 9149 701E 5678 5C6F 60C7 6566
       6C8C 8C5A 9041 9813 5451 66C7 920D 5948 90A3 5185 4E4D 51EA 8599 8B0E 7058 637A 934B 6962
       99B4 7E04 7577 5357 6960 8EDF 96E3 6C5D 4E8C 5C3C 5F10 8FE9 5302 8CD1 8089 8679 5EFF 65E5
       4E73 5165 5982 5C3F 97EE 4EFB 598A 5FCD 8A8D 6FE1 79B0 7962 5BE7 8471 732B 71B1 5E74 5FF5
       637B 649A 71C3 7C98 4E43 5EFC 4E4B 57DC 56A2 60A9 6FC3 7D0D 80FD 8133 81BF 8FB2 8997 86A4
       5DF4 628A 64AD 8987 6777 6CE2 6D3E 7436 7834 5A46 7F75 82AD 99AC 4FF3 5EC3 62DD 6392 6557
       676F 76C3 724C 80CC 80BA 8F29 914D 500D 57F9 5A92 6885 6973 7164 72FD 8CB7 58F2 8CE0 966A
       9019 877F 79E4 77E7 8429 4F2F 5265 535A 62CD 67CF 6CCA 767D 7B94 7C95 8236 8584 8FEB 66DD
       6F20 7206 7E1B 83AB 99C1 9EA6 51FD 7BB1 7872 7BB8 8087 7B48 6AE8 5E61 808C 7551 7560 516B
       9262 6E8C 767A 9197 9AEA 4F10 7F70 629C 7B4F 95A5 9CE9 567A 5859 86E4 96BC 4F34 5224 534A
       53CD 53DB 5E06 642C 6591 677F 6C3E 6C4E 7248 72AF 73ED 7554 7E41 822C 85E9 8CA9 7BC4 91C6
       7169 9812 98EF 633D 6669 756A 76E4 78D0 8543 86EE 532A 5351 5426 5983 5E87 5F7C 60B2 6249
       6279 62AB 6590 6BD4 6CCC 75B2 76AE 7891 79D8 7DCB 7F77 80A5 88AB 8AB9 8CBB 907F 975E 98DB
       6A0B 7C38 5099 5C3E 5FAE 6787 6BD8 7435 7709 7F8E 9F3B 67CA 7A17 5339 758B 9AED 5F66 819D
       83F1 8098 5F3C 5FC5 7562 7B46 903C 6867 59EB 5A9B 7D10 767E 8B2C 4FF5 5F6A 6A19 6C37 6F02
       74E2 7968 8868 8A55 8C79 5EDF 63CF 75C5 79D2 82D7 9328 92F2 849C 86ED 9C2D 54C1 5F6C 658C
       6D5C 7015 8CA7 8CD3 983B 654F 74F6 4E0D 4ED8 57E0 592B 5A66 5BCC 51A8 5E03 5E9C 6016 6276
       6577 65A7 666E 6D6E 7236 7B26 8150 819A 8299 8B5C 8CA0 8CE6 8D74 961C 9644 4FAE 64AB 6B66
       821E 8461 856A 90E8 5C01 6953 98A8 847A 8557 4F0F 526F 5FA9 5E45 670D 798F 8179 8907 8986
       6DF5 5F17 6255 6CB8 4ECF 7269 9B92 5206 543B 5674 58B3 61A4 626E 711A 596E 7C89 7CDE 7D1B
       96F0 6587 805E 4E19 4F75 5175 5840 5E63 5E73 5F0A 67C4 4E26 853D 9589 965B 7C73 9801 50FB
       58C1 7656 78A7 5225 77A5 8511 7B86 504F 5909 7247 7BC7 7DE8 8FBA 8FD4 904D 4FBF 52C9 5A29
       5F01 97AD 4FDD 8217 92EA 5703 6355 6B69 752B 88DC 8F14 7A42 52DF 5893 6155 620A 66AE 6BCD
       7C3F 83E9 5023 4FF8 5305 5446 5831 5949 5B9D 5CF0 5CEF 5D29 5E96 62B1 6367 653E 65B9 670B
       6CD5 6CE1 70F9 7832 7E2B 80DE 82B3 840C 84EC 8702 8912 8A2A 8C4A 90A6 92D2 98FD 9CF3 9D6C
       4E4F 4EA1 508D 5256 574A 59A8 5E3D 5FD8-5FD9 623F 66B4 671B 67D0 68D2 5192 7D21 80AA 81A8
       8B00 8C8C 8CBF 927E 9632 5420 982C 5317 50D5 535C 58A8 64B2 6734 7267 7766 7A46 91E6 52C3
       6CA1 6B86 5800 5E4C 5954 672C 7FFB 51E1 76C6 6469 78E8 9B54 9EBB 57CB 59B9 6627 679A 6BCE
       54E9 69D9 5E55 819C 6795 9BAA 67FE 9C52 685D 4EA6 4FE3 53C8 62B9 672B 6CAB 8FC4 4FAD 7E6D
       9EBF 4E07 6162 6E80 6F2B 8513 5473 672A 9B45 5DF3 7B95 5CAC 5BC6 871C 6E4A 84D1 7A14 8108
       5999 7C8D 6C11 7720 52D9 5922 7121 725F 77DB 9727 9D61 690B 5A7F 5A18 51A5 540D 547D 660E
       76DF 8FF7 9298 9CF4 59EA 725D 6EC5 514D 68C9 7DBF 7DEC 9762 9EBA 6478 6A21 8302 5984 5B5F
       6BDB 731B 76F2 7DB2 8017 8499 5132 6728 9ED9 76EE 6762 52FF 9905 5C24 623B 7C7E 8CB0 554F
       60B6 7D0B 9580 5301 4E5F 51B6 591C 723A 8036 91CE 5F25 77E2 5384 5F79 7D04 85AC 8A33 8E8D
       9756 67F3 85AE 9453 6109 6108 6CB9 7652 8AED 8F38 552F 4F51 512A 52C7 53CB 5BA5 5E7D 60A0
       6182 63D6 6709 67DA 6E67 6D8C 7336-7337 7531 7950 88D5 8A98 904A 9091 90F5 96C4 878D 5915
       4E88 4F59 4E0E 8A89 8F3F 9810 50AD 5E7C 5996 5BB9 5EB8 63DA 63FA 64C1 66DC 694A 69D8 6D0B
       6EB6 7194 7528 7AAF 7F8A 8000 8449 84C9 8981 8B21 8E0A 9065 967D 990A 617E 6291 6B32 6C83
       6D74 7FCC 7FFC 6DC0 7F85 87BA 88F8 6765 83B1 983C 96F7 6D1B 7D61 843D 916A 4E71 5375 5D50
       6B04 6FEB 85CD 862D 89A7 5229 540F 5C65 674E 68A8 7406 7483 75E2 88CF 88E1 91CC 96E2 9678
       5F8B 7387 7ACB 844E 63A0 7565 5289 6D41 6E9C 7409 7559 786B 7C92 9686 7ADC 9F8D 4FB6 616E
       65C5 865C 4E86 4EAE 50DA 4E21 51CC 5BEE 6599 6881 6DBC 731F 7642 77AD 7A1C 7CE7 826F 8AD2
       907C 91CF 9675 9818 529B 7DD1 502B 5398 6797 6DCB 71D0 7433 81E8 8F2A 96A3 9C57 9E9F 7460
       5841 6D99 7D2F 985E 4EE4 4F36 4F8B 51B7 52B1 5DBA 601C 73B2 793C 82D3 9234 96B7 96F6 970A
       9E97 9F62 66A6 6B74 5217 52A3 70C8 88C2 5EC9 604B 6190 6F23 7149 7C3E 7DF4 806F 84EE 9023
       932C 5442 9B6F 6AD3 7089 8CC2 8DEF 9732 52B4 5A41 5ECA 5F04 6717 697C 6994 6D6A 6F0F 7262
       72FC 7BED 8001 807E 874B 90CE 516D 9E93 7984 808B 9332 8AD6 502D 548C 8A71 6B6A 8CC4 8107
       60D1 67A0 9DF2 4E99 4E98 9C10 8A6B 85C1 8568 6900 6E7E 7897 8155"),
   (4418,
      "5F0C 4E10 4E15 4E2A 4E31 4E36 4E3C 4E3F 4E42 4E56 4E58 4E82 4E85 8C6B 4E8A 8212 5F0D 4E8E
       4E9E-4EA0 4EA2 4EB0 4EB3 4EB6 4ECE 4ECD 4EC4 4EC6 4EC2 4ED7 4EDE 4EED 4EDF 4EF7 4F09 4F5A
       4F30 4F5B 4F5D 4F57 4F47 4F76 4F88 4F8F 4F98 4F7B 4F69 4F70 4F91 4F6F 4F86 4F96 5118 4FD4
       4FDF 4FCE 4FD8 4FDB 4FD1 4FDA 4FD0 4FE4-4FE5 501A 5028 5014 502A 5025 5005 4F1C 4FF6 5021
       5029 502C 4FFE 4FEF 5011 5006 5043 5047 6703 5055 5050 5048 505A 5056 506C 5078 5080 509A
       5085 50B4 50B2 50C9-50CA 50B3 50C2 50D6 50DE 50E5 50ED 50E3 50EE 50F9 50F5 5109 5101-5102
       5116 5115 5114 511A 5121 513A 5137 513C 513B 513F-5140 5152 514C 5154 5162 7AF8 5169-516A
       516E 5180 5182 56D8 518C 5189 518F 5191 5193 5195-5196 51A4 51A6 51A2 51A9-51AB 51B3
       51B1-51B2 51B0 51B5 51BD 51C5 51C9 51DB 51E0 8655 51E9 51ED 51F0 51F5 51FE 5204 520B 5214
       520E 5227 522A 522E 5233 5239 524F 5244 524B-524C 525E 5254 526A 5274 5269 5273 527F 527D
       528D 5294 5292 5271 5288 5291 8FA8 8FA7 52AC-52AD 52BC 52B5 52C1 52CD 52D7 52DE 52E3 52E6
       98ED 52E0 52F3 52F5 52F8-52F9 5306 5308 7538 530D 5310 530F 5315 531A 5323 532F 5331 5333
       5338 5340 5346 5345 4E17 5349 534D 51D6 535E 5369 536E 5918 537B 5377 5382 5396 53A0 53A6
       53A5 53AE 53B0 53B6 53C3 7C12 96D9 53DF 66FC 71EE 53EE 53E8 53ED 53FA 5401 543D 5440
       542C-542D 543C 542E 5436 5429 541D 544E 548F 5475 548E 545F 5471 5477 5470 5492 547B 5480
       5476 5484 5490 5486 54C7 54A2 54B8 54A5 54AC 54C4 54C8 54A8 54AB 54C2 54A4 54BE 54BC 54D8
       54E5-54E6 550F 5514 54FD 54EE 54ED 54FA 54E2 5539 5540 5563 554C 552E 555C 5545 5556-5557
       5538 5533 555D 5599 5580 54AF 558A 559F 557B 557E 5598 559E 55AE 557C 5583 55A9 5587 55A8
       55DA 55C5 55DF 55C4 55DC 55E4 55D4 5614 55F7 5616 55FE 55FD 561B 55F9 564E 5650 71DF 5634
       5636 5632 5638 566B 5664 562F 566C 566A 5686 5680 568A 56A0 5694 568F 56A5 56AE 56B6 56B4
       56C2 56BC 56C1 56C3 56C0 56C8 56CE 56D1 56D3 56D7 56EE 56F9 5700 56FF 5704 5709 5708 570B
       570D 5713 5718 5716 55C7 571C 5726 5737-5738 574E 573B 5740 574F 5769 57C0 5788 5761 577F
       5789 5793 57A0 57B3 57A4 57AA 57B0 57C3 57C6 57D4 57D2-57D3 580A 57D6 57E3 580B 5819 581D
       5872 5821 5862 584B 5870 6BC0 5852 583D 5879 5885 58B9 589F 58AB 58BA 58DE 58BB 58B8 58AE
       58C5 58D3 58D1 58D7 58D9 58D8 58E5 58DC 58E4 58DF 58EF 58FA 58F9 58FB-58FD 5902 590A 5910
       591B 68A6 5925 592C-592D 5932 5938 593E 7AD2 5955 5950 594E 595A 5958 5962 5960 5967 596C
       5969 5978 5981 599D 4F5E 4FAB 59A3 59B2 59C6 59E8 59DC 598D 59D9-59DA 5A25 5A1F 5A11 5A1C
       5A09 5A1A 5A40 5A6C 5A49 5A35-5A36 5A62 5A6A 5A9A 5ABC 5ABE 5ACB 5AC2 5ABD 5AE3 5AD7 5AE6
       5AE9 5AD6 5AFA-5AFB 5B0C 5B0B 5B16 5B32 5AD0 5B2A 5B36 5B3E 5B43 5B45 5B40 5B51 5B55
       5B5A-5B5B 5B65 5B69 5B70 5B73 5B75 5B78 6588 5B7A 5B80 5B83 5BA6 5BB8 5BC3 5BC7 5BC9 5BD4
       5BD0 5BE4 5BE6 5BE2 5BDE 5BE5 5BEB 5BF0 5BF6 5BF3 5C05 5C07-5C08 5C0D 5C13 5C20 5C22 5C28
       5C38-5C39 5C41 5C46 5C4E 5C53 5C50 5C4F 5B71 5C6C 5C6E 4E62 5C76 5C79 5C8C 5C91 5C94 599B
       5CAB 5CBB 5CB6 5CBC 5CB7 5CC5 5CBE 5CC7 5CD9 5CE9 5CFD 5CFA 5CED 5D8C 5CEA 5D0B 5D15 5D17
       5D5C 5D1F 5D1B 5D11 5D14 5D22 5D1A 5D19 5D18 5D4C 5D52 5D4E 5D4B 5D6C 5D73 5D76 5D87 5D84
       5D82 5DA2 5D9D 5DAC 5DAE 5DBD 5D90 5DB7 5DBC 5DC9 5DCD 5DD3 5DD2 5DD6 5DDB 5DEB 5DF2 5DF5
       5E0B 5E1A 5E19 5E11 5E1B 5E36-5E37 5E44 5E43 5E40 5E4E 5E57 5E54 5E5F 5E62 5E64 5E47
       5E75-5E76 5E7A 9EBC 5E7F 5EA0 5EC1-5EC2 5EC8 5ED0 5ECF 5ED6 5EE3 5EDD 5EDA-5EDB 5EE2 5EE1
       5EE8-5EE9 5EEC 5EF1 5EF3 5EF0 5EF4 5EF8 5EFE 5F03 5F09 5F5D 5F5C 5F0B 5F11 5F16 5F29 5F2D
       5F38 5F41 5F48 5F4C 5F4E 5F2F 5F51 5F56-5F57 5F59 5F61 5F6D 5F73 5F77 5F83 5F82 5F7F 5F8A
       5F88 5F91 5F87 5F9E 5F99 5F98 5FA0 5FA8 5FAD 5FBC 5FD6 5FFB 5FE4 5FF8 5FF1 5FDD 60B3 5FFF
       6021 6060 6019 6010 6029 600E 6031 601B 6015 602B 6026 600F 603A 605A 6041 606A 6077 605F
       604A 6046 604D 6063 6043 6064 6042 606C 606B 6059 6081 608D 60E7 6083 609A 6084 609B
       6096-6097 6092 60A7 608B 60E1 60B8 60E0 60D3 60B4 5FF0 60BD 60C6 60B5 60D8 614D 6115 6106
       60F6-60F7 6100 60F4 60FA 6103 6121 60FB 60F1 610D-610E 6147 613E 6128 6127 614A 613F 613C
       612C 6134 613D 6142 6144 6173 6177 6158-615A 616B 6174 616F 6165 6171 615F 615D 6153 6175
       6199 6196 6187 61AC 6194 619A 618A 6191 61AB 61AE 61CC 61CA 61C9 61F7 61C8 61C3 61C6 61BA
       61CB 7F79 61CD 61E6 61E3 61F6 61FA 61F4 61FF 61FD 61FC 61FE 6200 6208-6209 620D 620C 6214
       621B 621E 6221 622A 622E 6230 6232-6233 6241 624E 625E 6263 625B 6260 6268 627C 6282 6289
       627E 6292-6293 6296 62D4 6283 6294 62D7 62D1 62BB 62CF 62FF 62C6 64D4 62C8 62DC 62CC 62CA
       62C2 62C7 629B 62C9 630C 62EE 62F1 6327 6302 6308 62EF 62F5 6350 633E 634D 641C 634F 6396
       638E 6380 63AB 6376 63A3 638F 6389 639F 63B5 636B 6369 63BE 63E9 63C0 63C6 63E3 63C9 63D2
       63F6 63C4 6416 6434 6406 6413 6426 6436 651D 6417 6428 640F 6467 646F 6476 644E 652A 6495
       6493 64A5 64A9 6488 64BC 64DA 64D2 64C5 64C7 64BB 64D8 64C2 64F1 64E7 8209 64E0-64E1 62AC
       64E3 64EF 652C 64F6 64F4 64F2 64FA 6500 64FD 6518 651C 6505 6524 6523 652B 6534-6535 6537
       6536 6538 754B 6548 6556 6555 654D 6558 655E 655D 6572 6578 6582-6583 8B8A 659B 659F 65AB
       65B7 65C3 65C6 65C1 65C4 65CC 65D2 65DB 65D9 65E0-65E1 65F1 6772 660A 6603 65FB 6773
       6635-6636 6634 661C 664F 6644 6649 6641 665E 665D 6664 6667-6668 665F 6662 6670 6683 6688
       668E 6689 6684 6698 669D 66C1 66B9 66C9 66BE 66BC 66C4 66B8 66D6 66DA 66E0 663F 66E6 66E9
       66F0 66F5 66F7 670F 6716 671E 6726-6727 9738 672E 673F 6736 6741 6738 6737 6746 675E 6760
       6759 6763-6764 6789 6770 67A9 677C 676A 678C 678B 67A6 67A1 6785 67B7 67EF 67B4 67EC 67B3
       67E9 67B8 67E4 67DE 67DD 67E2 67EE 67B9 67CE 67C6 67E7 6A9C 681E 6846 6829 6840 684D 6832
       684E 68B3 682B 6859 6863 6877 687F 689F 688F 68AD 6894 689D 689B 6883 6AAE 68B9 6874 68B5
       68A0 68BA 690F 688D 687E 6901 68CA 6908 68D8 6922 6926 68E1 690C 68CD 68D4 68E7 68D5 6936
       6912 6904 68D7 68E3 6925 68F9 68E0 68EF 6928 692A 691A 6923 6921 68C6 6979 6977 695C 6978
       696B 6954 697E 696E 6939 6974 693D 6959 6930 6961 695E 695D 6981 696A 69B2 69AE 69D0 69BF
       69C1 69D3 69BE 69CE 5BE8 69CA 69DD 69BB 69C3 69A7 6A2E 6991 69A0 699C 6995 69B4 69DE 69E8
       6A02 6A1B 69FF 6B0A 69F9 69F2 69E7 6A05 69B1 6A1E 69ED 6A14 69EB 6A0A 6A12 6AC1 6A23 6A13
       6A44 6A0C 6A72 6A36 6A78 6A47 6A62 6A59 6A66 6A48 6A38 6A22 6A90 6A8D 6AA0 6A84 6AA2-6AA3
       6A97 8617 6ABB 6AC3 6AC2 6AB8 6AB3 6AAC 6ADE 6AD1 6ADF 6AAA 6ADA 6AEA 6AFB 6B05 8616 6AFA
       6B12 6B16 9B31 6B1F 6B38 6B37 76DC 6B39 98EE 6B47 6B43 6B49 6B50 6B59 6B54 6B5B 6B5F 6B61
       6B78-6B79 6B7F-6B80 6B84 6B83 6B8D 6B98 6B95 6B9E 6BA4 6BAA-6BAB 6BAF 6BB2 6BB1 6BB3 6BB7
       6BBC 6BC6 6BCB 6BD3 6BDF 6BEC 6BEB 6BF3 6BEF 9EBE 6C08 6C13-6C14 6C1B 6C24 6C23 6C5E 6C55
       6C62 6C6A 6C82 6C8D 6C9A 6C81 6C9B 6C7E 6C68 6C73 6C92 6C90 6CC4 6CF1 6CD3 6CBD 6CD7 6CC5
       6CDD 6CAE 6CB1 6CBE 6CBA 6CDB 6CEF 6CD9 6CEA 6D1F 884D 6D36 6D2B 6D3D 6D38 6D19 6D35 6D33
       6D12 6D0C 6D63 6D93 6D64 6D5A 6D79 6D59 6D8E 6D95 6FE4 6D85 6DF9 6E15 6E0A 6DB5 6DC7 6DE6
       6DB8 6DC6 6DEC 6DDE 6DCC 6DE8 6DD2 6DC5 6DFA 6DD9 6DE4 6DD5 6DEA 6DEE 6E2D 6E6E 6E2E 6E19
       6E72 6E5F 6E3E 6E23 6E6B 6E2B 6E76 6E4D 6E1F 6E43 6E3A 6E4E 6E24 6EFF 6E1D 6E38 6E82 6EAA
       6E98 6EC9 6EB7 6ED3 6EBD 6EAF 6EC4 6EB2 6ED4-6ED5 6E8F 6EA5 6EC2 6E9F 6F41 6F11 704C 6EEC
       6EF8 6EFE 6F3F 6EF2 6F31 6EEF 6F32 6ECC 6F3E 6F13 6EF7 6F86 6F7A 6F78 6F81 6F80 6F6F 6F5B
       6FF3 6F6D 6F82 6F7C 6F58 6F8E 6F91 6FC2 6F66 6FB3 6FA3 6FA1 6FA4 6FB9 6FC6 6FAA 6FDF 6FD5
       6FEC 6FD4 6FD8 6FF1 6FEE 6FDB 7009 700B 6FFA 7011 7001 700F 6FFE 701B 701A 6F74 701D 7018
       701F 7030 703E 7032 7051 7063 7099 7092 70AF 70F1 70AC 70B8 70B3 70AE 70DF 70CB 70DD 70D9
       7109 70FD 711C 7119 7165 7155 7188 7166 7162 714C 7156 716C 718F 71FB 7184 7195 71A8 71AC
       71D7 71B9 71BE 71D2 71C9 71D4 71CE 71E0 71EC 71E7 71F5 71FC 71F9 71FF 720D 7210 721B 7228
       722D 722C 7230 7232 723B-723C 723F-7240 7246 724B 7258 7274 727E 7282 7281 7287 7292 7296
       72A2 72A7 72B9 72B2 72C3 72C6 72C4 72CE 72D2 72E2 72E0-72E1 72F9 72F7 500F 7317 730A 731C
       7316 731D 7334 732F 7329 7325 733E 734E-734F 9ED8 7357 736A 7368 7370 7378 7375 737B 737A
       73C8 73B3 73CE 73BB 73C0 73E5 73EE 73DE 74A2 7405 746F 7425 73F8 7432 743A 7455 743F 745F
       7459 7441 745C 7469 7470 7463 746A 7476 747E 748B 749E 74A7 74CA 74CF 74D4 73F1 74E0 74E3
       74E7 74E9 74EE 74F2 74F0-74F1 74F8 74F7 7504 7503 7505 750C 750E 750D 7515 7513 751E 7526
       752C 753C 7544 754D 754A 7549 755B 7546 755A 7569 7564 7567 756B 756D 7578 7576 7586-7587
       7574 758A 7589 7582 7594 759A 759D 75A5 75A3 75C2 75B3 75C3 75B5 75BD 75B8 75BC 75B1 75CD
       75CA 75D2 75D9 75E3 75DE 75FE-75FF 75FC 7601 75F0 75FA 75F2-75F3 760B 760D 7609 761F 7627
       7620-7622 7624 7634 7630 763B 7647-7648 7646 765C 7658 7661-7662 7668-766A 7667 766C 7670
       7672 7676 7678 767C 7680 7683 7688 768B 768E 7696 7693 7699-769A 76B0 76B4 76B8-76BA 76C2
       76CD 76D6 76D2 76DE 76E1 76E5 76E7 76EA 862F 76FB 7708 7707 7704 7729 7724 771E 7725-7726
       771B 7737-7738 7747 775A 7768 776B 775B 7765 777F 777E 7779 778E 778B 7791 77A0 779E 77B0
       77B6 77B9 77BF 77BC-77BD 77BB 77C7 77CD 77D7 77DA 77DC 77E3 77EE 77FC 780C 7812 7926 7820
       792A 7845 788E 7874 7886 787C 789A 788C 78A3 78B5 78AA 78AF 78D1 78C6 78CB 78D4 78BE 78BC
       78C5 78CA 78EC 78E7 78DA 78FD 78F4 7907 7912 7911 7919 792C 792B 7940 7960 7957 795F 795A
       7955 7953 797A 797F 798A 799D 79A7 9F4B 79AA 79AE 79B3 79B9-79BA 79C9 79D5 79E7 79EC 79E1
       79E3 7A08 7A0D 7A18-7A19 7A20 7A1F 7980 7A31 7A3B 7A3E 7A37 7A43 7A57 7A49 7A61-7A62 7A69
       9F9D 7A70 7A79 7A7D 7A88 7A97 7A95 7A98 7A96 7AA9 7AC8 7AB0 7AB6 7AC5 7AC4 7ABF 9083 7AC7
       7ACA 7ACD 7ACF 7AD5 7AD3 7AD9-7ADA 7ADD 7AE1-7AE2 7AE6 7AED 7AF0 7B02 7B0F 7B0A 7B06 7B33
       7B18-7B19 7B1E 7B35 7B28 7B36 7B50 7B7A 7B04 7B4D 7B0B 7B4C 7B45 7B75 7B65 7B74 7B67
       7B70-7B71 7B6C 7B6E 7B9D 7B98 7B9F 7B8D 7B9C 7B9A 7B8B 7B92 7B8F 7B5D 7B99 7BCB 7BC1 7BCC
       7BCF 7BB4 7BC6 7BDD 7BE9 7C11 7C14 7BE6 7BE5 7C60 7C00 7C07 7C13 7BF3 7BF7 7C17 7C0D 7BF6
       7C23 7C27 7C2A 7C1F 7C37 7C2B 7C3D 7C4C 7C43 7C54 7C4F 7C40 7C50 7C58 7C5F 7C64 7C56 7C65
       7C6C 7C75 7C83 7C90 7CA4 7CAD 7CA2 7CAB 7CA1 7CA8 7CB3 7CB2 7CB1 7CAE 7CB9 7CBD 7CC0 7CC5
       7CC2 7CD8 7CD2 7CDC 7CE2 9B3B 7CEF 7CF2 7CF4 7CF6 7CFA 7D06 7D02 7D1C 7D15 7D0A 7D45 7D4B
       7D2E 7D32 7D3F 7D35 7D46 7D73 7D56 7D4E 7D72 7D68 7D6E 7D4F 7D63 7D93 7D89 7D5B 7D8F 7D7D
       7D9B 7DBA 7DAE 7DA3 7DB5 7DC7 7DBD 7DAB 7E3D 7DA2 7DAF 7DDC 7DB8 7D9F 7DB0 7DD8 7DDD 7DE4
       7DDE 7DFB 7DF2 7DE1 7E05 7E0A 7E23 7E21 7E12 7E31 7E1F 7E09 7E0B 7E22 7E46 7E66 7E3B 7E35
       7E39 7E43 7E37 7E32 7E3A 7E67 7E5D 7E56 7E5E 7E59-7E5A 7E79 7E6A 7E69 7E7C 7E7B 7E83 7DD5
       7E7D 8FAE 7E7F 7E88-7E89 7E8C 7E92 7E90 7E93-7E94 7E96 7E8E 7E9B-7E9C 7F38 7F3A 7F45
       7F4C-7F4E 7F50-7F51 7F55 7F54 7F58 7F5F-7F60 7F68-7F69 7F67 7F78 7F82 7F86 7F83 7F88 7F87
       7F8C 7F94 7F9E 7F9D 7F9A 7FA3 7FAF 7FB2 7FB9 7FAE 7FB6 7FB8 8B71 7FC5-7FC6 7FCA 7FD5 7FD4
       7FE1 7FE6 7FE9 7FF3 7FF9 98DC 8006 8004 800B 8012 8018-8019 801C 8021 8028 803F 803B 804A
       8046 8052 8058 805A 805F 8062 8068 8073 8072 8070 8076 8079 807D 807F 8084 8086 8085 809B
       8093 809A 80AD 5190 80AC 80DB 80E5 80D9 80DD 80C4 80DA 80D6 8109 80EF 80F1 811B 8129 8123
       812F 814B 968B 8146 813E 8153 8151 80FC 8171 816E 8165-8166 8174 8183 8188 818A 8180 8182
       81A0 8195 81A4 81A3 815F 8193 81A9 81B0 81B5 81BE 81B8 81BD 81C0 81C2 81BA 81C9 81CD 81D1
       81D9 81D8 81C8 81DA 81DF-81E0 81E7 81FA-81FB 81FE 8201-8202 8205 8207 820A 820D 8210 8216
       8229 822B 8238 8233 8240 8259 8258 825D 825A 825F 8264 8262 8268 826A-826B 822E 8271
       8277-8278 827E 828D 8292 82AB 829F 82BB 82AC 82E1 82E3 82DF 82D2 82F4 82F3 82FA 8393 8303
       82FB 82F9 82DE 8306 82DC 8309 82D9 8335 8334 8316 8332 8331 8340 8339 8350 8345 832F 832B
       8317-8318 8385 839A 83AA 839F 83A2 8396 8323 838E 8387 838A 837C 83B5 8373 8375 83A0 8389
       83A8 83F4 8413 83EB 83CE 83FD 8403 83D8 840B 83C1 83F7 8407 83E0 83F2 840D 8422 8420 83BD
       8438 8506 83FB 846D 842A 843C 855A 8484 8477 846B 84AD 846E 8482 8469 8446 842C 846F 8479
       8435 84CA 8462 84B9 84BF 849F 84D9 84CD 84BB 84DA 84D0 84C1 84C6 84D6 84A1 8521 84FF 84F4
       8517-8518 852C 851F 8515 8514 84FC 8540 8563 8558 8548 8541 8602 854B 8555 8580 85A4 8588
       8591 858A 85A8 856D 8594 859B 85EA 8587 859C 8577 857E 8590 85C9 85BA 85CF 85B9 85D0 85D5
       85DD 85E5 85DC 85F9 860A 8613 860B 85FE 85FA 8606 8622 861A 8630 863F 864D 4E55 8654 865F
       8667 8671 8693 86A3 86A9-86AA 868B-868C 86B6 86AF 86C4 86C6 86B0 86C9 8823 86AB 86D4 86DE
       86E9 86EC 86DF 86DB 86EF 8712 8706 8708 8700 8703 86FB 8711 8709 870D 86F9 870A 8734 873F
       8737 873B 8725 8729 871A 8760 875F 8778 874C 874E 8774 8757 8768 876E 8759 8753 8763 876A
       8805 87A2 879F 8782 87AF 87CB 87BD 87C0 87D0 96D6 87AB 87C4 87B3 87C7 87C6 87BB 87EF 87F2
       87E0 880F 880D 87FE 87F6-87F7 880E 87D2 8811 8816 8815 8822 8821 8831 8836 8839 8827 883B
       8844 8842 8852 8859 885E 8862 886B 8881 887E 889E 8875 887D 88B5 8872 8882 8897 8892 88AE
       8899 88A2 888D 88A4 88B0 88BF 88B1 88C3-88C4 88D4 88D8-88D9 88DD 88F9 8902 88FC 88F4 88E8
       88F2 8904 890C 890A 8913 8943 891E 8925 892A-892B 8941 8944 893B 8936 8938 894C 891D 8960
       895E 8966 8964 896D 896A 896F 8974 8977 897E 8983 8988 898A 8993 8998 89A1 89A9 89A6 89AC
       89AF 89B2 89BA 89BD 89BF-89C0 89DA 89DC-89DD 89E7 89F4 89F8 8A03 8A16 8A10 8A0C 8A1B 8A1D
       8A25 8A36 8A41 8A5B 8A52 8A46 8A48 8A7C 8A6D 8A6C 8A62 8A85 8A82 8A84 8AA8 8AA1 8A91
       8AA5-8AA6 8A9A 8AA3 8AC4 8ACD 8AC2 8ADA 8AEB 8AF3 8AE7 8AE4 8AF1 8B14 8AE0 8AE2 8AF7 8ADE
       8ADB 8B0C 8B07 8B1A 8AE1 8B16 8B10 8B17 8B20 8B33 97AB 8B26 8B2B 8B3E 8B28 8B41 8B4C 8B4F
       8B4E 8B49 8B56 8B5B 8B5A 8B6B 8B5F 8B6C 8B6F 8B74 8B7D 8B80 8B8C 8B8E 8B92-8B93 8B96
       8B99-8B9A 8C3A 8C41 8C3F 8C48 8C4C 8C4E 8C50 8C55 8C62 8C6C 8C78 8C7A 8C82 8C89 8C85 8C8A
       8C8D-8C8E 8C94 8C7C 8C98 621D 8CAD 8CAA 8CBD 8CB2-8CB3 8CAE 8CB6 8CC8 8CC1 8CE4 8CE3 8CDA
       8CFD 8CFA-8CFB 8D04-8D05 8D0A 8D07 8D0F 8D0D 8D10 9F4E 8D13 8CCD 8D14 8D16 8D67 8D6D 8D71
       8D73 8D81 8D99 8DC2 8DBE 8DBA 8DCF 8DDA 8DD6 8DCC 8DDB 8DCB 8DEA-8DEB 8DDF 8DE3 8DFC
       8E08-8E09 8DFF 8E1D-8E1E 8E10 8E1F 8E42 8E35 8E30 8E34 8E4A 8E47 8E49 8E4C 8E50 8E48 8E59
       8E64 8E60 8E2A 8E63 8E55 8E76 8E72 8E7C 8E81 8E87 8E85 8E84 8E8B 8E8A 8E93 8E91 8E94 8E99
       8EAA 8EA1 8EAC 8EB0 8EC6 8EB1 8EBE 8EC5 8EC8 8ECB 8EDB 8EE3 8EFC 8EFB 8EEB 8EFE 8F0A 8F05
       8F15 8F12 8F19 8F13 8F1C 8F1F 8F1B 8F0C 8F26 8F33 8F3B 8F39 8F45 8F42 8F3E 8F4C 8F49 8F46
       8F4E 8F57 8F5C 8F62-8F64 8F9C 8F9F 8FA3 8FAD 8FAF 8FB7 8FDA 8FE5 8FE2 8FEA 8FEF 9087 8FF4
       9005 8FF9-8FFA 9011 9015 9021 900D 901E 9016 900B 9027 9036 9035 9039 8FF8 904F-9052 900E
       9049 903E 9056 9058 905E 9068 906F 9076 96A8 9072 9082 907D 9081 9080 908A 9089 908F 90A8
       90AF 90B1 90B5 90E2 90E4 6248 90DB 9102 9112 9119 9132 9130 914A 9156 9158 9163 9165 9169
       9173 9172 918B 9189 9182 91A2 91AB 91AF 91AA 91B5 91B4 91BA 91C0-91C1 91C9 91CB 91D0 91D6
       91DF 91E1 91DB 91FC 91F5-91F6 921E 91FF 9214 922C 9215 9211 925E 9257 9245 9249 9264 9248
       9295 923F 924B 9250 929C 9296 9293 929B 925A 92CF 92B9 92B7 92E9 930F 92FA 9344 932E 9319
       9322 931A 9323 933A 9335 933B 935C 9360 937C 936E 9356 93B0 93AC-93AD 9394 93B9 93D6-93D7
       93E8 93E5 93D8 93C3 93DD 93D0 93C8 93E4 941A 9414 9413 9403 9407 9410 9436 942B 9435 9421
       943A 9441 9452 9444 945B 9460 9462 945E 946A 9229 9470 9475 9477 947D 945A 947C 947E 9481
       947F 9582 9587 958A 9594 9596 9598-9599 95A0 95A8 95A7 95AD 95BC 95BB 95B9 95BE 95CA 6FF6
       95C3 95CD 95CC 95D5 95D4 95D6 95DC 95E1 95E5 95E2 9621 9628 962E-962F 9642 964C 964F 964B
       9677 965C 965E 965D 965F 9666 9672 966C 968D 9698 9695 9697 96AA 96A7 96B1-96B2 96B0 96B4
       96B6 96B8-96B9 96CE 96CB 96C9 96CD 894D 96DC 970D 96D5 96F9 9704 9706 9708 9713 970E 9711
       970F 9716 9719 9724 972A 9730 9739 973D-973E 9744 9746 9748 9742 9749 975C 9760 9764 9766
       9768 52D2 976B 9771 9779 9785 977C 9781 977A 9786 978B 978F-9790 979C 97A8 97A6 97A3
       97B3-97B4 97C3 97C6 97C8 97CB 97DC 97ED 9F4F 97F2 7ADF 97F6 97F5 980F 980C 9838 9824 9821
       9837 983D 9846 984F 984B 986B 986F-9871 9874 9873 98AA 98AF 98B1 98B6 98C4 98C3 98C6 98E9
       98EB 9903 9909 9912 9914 9918 9921 991D-991E 9924 9920 992C 992E 993D-993E 9942 9949 9945
       9950 994B 9951-9952 994C 9955 9997-9998 99A5 99AD-99AE 99BC 99DF 99DB 99DD 99D8 99D1
       99ED-99EE 99F1-99F2 99FB 99F8 9A01 9A0F 9A05 99E2 9A19 9A2B 9A37 9A45 9A42 9A40 9A43 9A3E
       9A55 9A4D 9A5B 9A57 9A5F 9A62 9A65 9A64 9A69 9A6B 9A6A 9AAD 9AB0 9ABC 9AC0 9ACF 9AD1
       9AD3-9AD4 9ADE-9ADF 9AE2-9AE3 9AE6 9AEF 9AEB 9AEE 9AF4 9AF1 9AF7 9AFB 9B06 9B18 9B1A 9B1F
       9B22-9B23 9B25 9B27-9B2A 9B2E-9B2F 9B32 9B44 9B43 9B4F 9B4D-9B4E 9B51 9B58 9B74 9B93 9B83
       9B91 9B96-9B97 9B9F-9BA0 9BA8 9BB4 9BC0 9BCA 9BB9 9BC6 9BCF 9BD1-9BD2 9BE3 9BE2 9BE4 9BD4
       9BE1 9C3A 9BF2 9BF1 9BF0 9C15 9C14 9C09 9C13 9C0C 9C06 9C08 9C12 9C0A 9C04 9C2E 9C1B 9C25
       9C24 9C21 9C30 9C47 9C32 9C46 9C3E 9C5A 9C60 9C67 9C76 9C78 9CE7 9CEC 9CF0 9D09 9D08 9CEB
       9D03 9D06 9D2A 9D26 9DAF 9D23 9D1F 9D44 9D15 9D12 9D41 9D3F 9D3E 9D46 9D48 9D5D-9D5E 9D64
       9D51 9D50 9D59 9D72 9D89 9D87 9DAB 9D6F 9D7A 9D9A 9DA4 9DA9 9DB2 9DC4 9DC1 9DBB 9DB8 9DBA
       9DC6 9DCF 9DC2 9DD9 9DD3 9DF8 9DE6 9DED 9DEF 9DFD 9E1A-9E1B 9E1E 9E75 9E79 9E7D 9E81 9E88
       9E8B-9E8C 9E92 9E95 9E91 9E9D 9EA5 9EA9 9EB8 9EAA 9EAD 9761 9ECC 9ECE-9ED0 9ED4 9EDC 9EDE
       9EDD 9EE0 9EE5 9EE8 9EEF 9EF4 9EF6-9EF7 9EF9 9EFB-9EFD 9F07-9F08 76B7 9F15 9F21 9F2C 9F3E
       9F4A 9F52 9F54 9F63 9F5F-9F61 9F66-9F67 9F6C 9F6A 9F77 9F72 9F76 9F95 9F9C 9FA0 582F 69C7
       9059 7464 51DC 7199"),
   (8272,
      "7E8A 891C 9348 9288 84DC 4FC9 70BB 6631 68C8 92F9 66FB 5F45 4E28 4EE1 4EFC 4F00 4F03 4F39
       4F56 4F92 4F8A 4F9A 4F94 4FCD 5040 5022 4FFF 501E 5046 5070 5042 5094 50F4 50D8 514A 5164
       519D 51BE 51EC 5215 529C 52A6 52C0 52DB 5300 5307 5324 5372 5393 53B2 53DD FA0E 549C 548A
       54A9 54FF 5586 5759 5765 57AC 57C8 57C7 FA0F-FA10 589E 58B2 590B 5953 595B 595D 5963 59A4
       59BA 5B56 5BC0 752F 5BD8 5BEC 5C1E 5CA6 5CBA 5CF5 5D27 5D53 FA11 5D42 5D6D 5DB8-5DB9 5DD0
       5F21 5F34 5F67 5FB7 5FDE 605D 6085 608A 60DE 60D5 6120 60F2 6111 6137 6130 6198 6213 62A6
       63F5 6460 649D 64CE 654E 6600 6615 663B 6609 662E 661E 6624 6665 6657 6659 FA12 6673 6699
       66A0 66B2 66BF 66FA 670E F929 6766 67BB 6852 67C0 6801 6844 68CF FA13 6968 FA14 6998 69E2
       6A30 6A6B 6A46 6A73 6A7E 6AE2 6AE4 6BD6 6C3F 6C5C 6C86 6C6F 6CDA 6D04 6D87 6D6F 6D96 6DAC
       6DCF 6DF8 6DF2 6DFC 6E39 6E5C 6E27 6E3C 6EBF 6F88 6FB5 6FF5 7005 7007 7028 7085 70AB 710F
       7104 715C 7146-7147 FA15 71C1 71FE 72B1 72BE 7324 FA16 7377 73BD 73C9 73D6 73E3 73D2 7407
       73F5 7426 742A 7429 742E 7462 7489 749F 7501 756F 7682 769C 769E 769B 76A6 FA17 7746 52AF
       7821 784E 7864 787A 7930 FA18-FA1A 7994 FA1B 799B 7AD1 7AE7 FA1C 7AEB 7B9E FA1D 7D48 7D5C
       7DB7 7DA0 7DD6 7E52 7F47 7FA1 FA1E 8301 8362 837F 83C7 83F6 8448 84B4 8553 8559 856B FA1F
       85B0 FA20-FA21 8807 88F5 8A12 8A37 8A79 8AA7 8ABE 8ADF FA22 8AF6 8B53 8B7F 8CF0 8CF4 8D12
       8D76 FA23 8ECF FA24-FA25 9067 90DE FA26 9115 9127 91DA 91D7 91DE 91ED-91EE 91E4-91E5 9206
       9210 920A 923A 9240 923C 924E 9259 9251 9239 9267 92A7 9277-9278 92E7 92D7 92D9 92D0 FA27
       92D5 92E0 92D3 9325 9321 92FB FA28 931E 92FF 931D 9302 9370 9357 93A4 93C6 93DE 93F8 9431
       9445 9448 9592 F9DC FA29 969D 96AF 9733 973B 9743 974D 974F 9751 9755 9857 9865 FA2A-FA2B
       9927 FA2C 999E 9A4E 9AD9 9ADC 9B75 9B72 9B8F 9BB1 9BBB 9C00 9D70 9D6B FA2D 9E19 9ED1 FFFD
       FFFD 2170-2179 FFE2 FFE4 FF07 FF02"),
   (10716,
      "2170-2179 2160-2169 FFE2 FFE4 FF07 FF02 3231 2116 2121 2235 7E8A 891C 9348 9288 84DC 4FC9
       70BB 6631 68C8 92F9 66FB 5F45 4E28 4EE1 4EFC 4F00 4F03 4F39 4F56 4F92 4F8A 4F9A 4F94 4FCD
       5040 5022 4FFF 501E 5046 5070 5042 5094 50F4 50D8 514A 5164 519D 51BE 51EC 5215 529C 52A6
       52C0 52DB 5300 5307 5324 5372 5393 53B2 53DD FA0E 549C 548A 54A9 54FF 5586 5759 5765 57AC
       57C8 57C7 FA0F-FA10 589E 58B2 590B 5953 595B 595D 5963 59A4 59BA 5B56 5BC0 752F 5BD8 5BEC
       5C1E 5CA6 5CBA 5CF5 5D27 5D53 FA11 5D42 5D6D 5DB8-5DB9 5DD0 5F21 5F34 5F67 5FB7 5FDE 605D
       6085 608A 60DE 60D5 6120 60F2 6111 6137 6130 6198 6213 62A6 63F5 6460 649D 64CE 654E 6600
       6615 663B 6609 662E 661E 6624 6665 6657 6659 FA12 6673 6699 66A0 66B2 66BF 66FA 670E F929
       6766 67BB 6852 67C0 6801 6844 68CF FA13 6968 FA14 6998 69E2 6A30 6A6B 6A46 6A73 6A7E 6AE2
       6AE4 6BD6 6C3F 6C5C 6C86 6C6F 6CDA 6D04 6D87 6D6F 6D96 6DAC 6DCF 6DF8 6DF2 6DFC 6E39 6E5C
       6E27 6E3C 6EBF 6F88 6FB5 6FF5 7005 7007 7028 7085 70AB 710F 7104 715C 7146-7147 FA15 71C1
       71FE 72B1 72BE 7324 FA16 7377 73BD 73C9 73D6 73E3 73D2 7407 73F5 7426 742A 7429 742E 7462
       7489 749F 7501 756F 7682 769C 769E 769B 76A6 FA17 7746 52AF 7821 784E 7864 787A 7930
       FA18-FA1A 7994 FA1B 799B 7AD1 7AE7 FA1C 7AEB 7B9E FA1D 7D48 7D5C 7DB7 7DA0 7DD6 7E52 7F47
       7FA1 FA1E 8301 8362 837F 83C7 83F6 8448 84B4 8553 8559 856B FA1F 85B0 FA20-FA21 8807 88F5
       8A12 8A37 8A79 8AA7 8ABE 8ADF FA22 8AF6 8B53 8B7F 8CF0 8CF4 8D12 8D76 FA23 8ECF FA24-FA25
       9067 90DE FA26 9115 9127 91DA 91D7 91DE 91ED-91EE 91E4-91E5 9206 9210 920A 923A 9240 923C
       924E 9259 9251 9239 9267 92A7 9277-9278 92E7 92D7 92D9 92D0 FA27 92D5 92E0 92D3 9325 9321
       92FB FA28 931E 92FF 931D 9302 9370 9357 93A4 93C6 93DE 93F8 9431 9445 9448 9592 F9DC FA29
       969D 96AF 9733 973B 9743 974D 974F 9751 9755 9857 9865 FA2A-FA2B 9927 FA2C 999E 9A4E 9AD9
       9ADC 9B75 9B72 9B8F 9BB1 9BBB 9C00 9D70 9D6B FA2D 9E19 9ED1")]

/-- The supplementary set, JIS X 0212. -/
def jis0212Table : CodeTable :=
  [(108,
      "2D8 2C7 B8 2D9 2DD AF 2DB 2DA FF5E 384-385"),
   (127,
      "A1 A6 BF"),
   (168,
      "BA AA A9 AE 2122 A4 2116"),
   (534,
      "386 388-38A 3AA FFFD 38C FFFD 38E 3AB FFFD 38F FFFD FFFD FFFD FFFD 3AC-3AF 3CA 390 3CC 3C2
       3CD 3CB 3B0 3CE"),
   (597,
      "402-40C 40E-40F"),
   (645,
      "452-45C 45E-45F"),
   (752,
      "C6 110 FFFD 126 FFFD 132 FFFD 141 13F FFFD 14A D8 152 FFFD 166 DE"),
   (784,
      "E6 111 F0 127 131 133 138 142 140 149 14B F8 153 DF 167 FE"),
   (846,
      "C1 C0 C4 C2 102 1CD 100 104 C5 C3 106 108 10C C7 10A 10E C9 C8 CB CA 11A 116 112 118 FFFD
       11C 11E 122 120 124 CD CC CF CE 1CF 130 12A 12E 128 134 136 139 13D 13B 143 147 145 D1 D3
       D2 D6 D4 1D1 150 14C D5 154 158 156 15A 15C 160 15E 164 162 DA D9 DC DB 16C 1D3 170 16A
       172 16E 168 1D7 1DB 1D9 1D5 174 DD 178 176 179 17D 17B FFFD FFFD FFFD FFFD FFFD FFFD FFFD
       E1 E0 E4 E2 103 1CE 101 105 E5 E3 107 109 10D E7 10B 10F E9 E8 EB EA 11B 117 113 119 1F5
       11D 11F FFFD 121 125 ED EC EF EE 1D0 FFFD 12B 12F 129 135 137 13A 13E 13C 144 148 146 F1
       F3 F2 F6 F4 1D2 151 14D F5 155 159 157 15B 15D 161 15F 165 163 FA F9 FC FB 16D 1D4 171 16B
       173 16F 169 1D8 1DC 1DA 1D6 175 FD FF 177 17A 17E 17C"),
   (1410,
      "4E02 4E04-4E05 4E0C 4E12 4E1F 4E23-4E24 4E28 4E2B 4E2E-4E30 4E35 4E40-4E41 4E44 4E47 4E51
       4E5A 4E5C 4E63 4E68-4E69 4E74-4E75 4E79 4E7F 4E8D 4E96-4E97 4E9D 4EAF 4EB9 4EC3 4ED0
       4EDA-4EDB 4EE0-4EE2 4EE8 4EEF 4EF1 4EF3 4EF5 4EFD-4F00 4F02-4F03 4F08 4F0B-4F0C 4F12
       4F15-4F17 4F19 4F2E 4F31 4F60 4F33 4F35 4F37 4F39 4F3B 4F3E 4F40 4F42 4F48-4F49 4F4B-4F4C
       4F52 4F54 4F56 4F58 4F5F 4F63 4F6A 4F6C 4F6E 4F71 4F77-4F7A 4F7D-4F7E 4F81-4F82 4F84-4F85
       4F89-4F8A 4F8C 4F8E 4F90 4F92-4F94 4F97 4F99-4F9A 4F9E-4F9F 4FB2 4FB7 4FB9 4FBB-4FBE
       4FC0-4FC1 4FC5-4FC6 4FC8-4FC9 4FCB-4FCD 4FCF 4FD2 4FDC 4FE0 4FE2 4FF0 4FF2 4FFC-4FFD
       4FFF-5001 5004 5007 500A 500C 500E 5010 5013 5017-5018 501B-501E 5022 5027 502E 5030
       5032-5033 5035 5040-5042 5045-5046 504A 504C 504E 5051-5053 5057 5059 505F-5060 5062-5063
       5066-5067 506A 506D 5070-5071 503B 5081 5083-5084 5086 508A 508E-5090 5092-5094 5096
       509B-509C 509E-50A2 50AA 50AF-50B0 50B9-50BA 50BD 50C0 50C3-50C4 50C7 50CC 50CE 50D0
       50D3-50D4 50D8 50DC-50DD 50DF 50E2 50E4 50E6 50E8-50E9 50EF 50F1 50F6 50FA 50FE 5103
       5106-5108 510B-510E 50F2 5110 5117 5119 511B-511E 5123 5127-5128 512C-512D 512F 5131
       5133-5135 5138-5139 5142 514A 514F 5153 5155 5157-5158 515F 5164 5166 517E 5183-5184 518B
       518E 5198 519D 51A1 51A3 51AD 51B8 51BA 51BC 51BE-51BF 51C2 51C8 51CF 51D1-51D3 51D5 51D8
       51DE 51E2 51E5 51EE 51F2-51F4 51F7 5201-5202 5205 5212-5213 5215-5216 5218 5222 5228
       5231-5232 5235 523C 5245 5249 5255 5257-5258 525A 525C 525F-5261 5266 526E 5277-5279 5280
       5282 5285 528A 528C 5293 5295-5298 529A 529C 52A4-52A7 52AF-52B0 52B6-52B8 52BA-52BB 52BD
       52C0 52C4 52C6 52C8 52CC 52CF 52D1 52D4 52D6 52DB-52DC 52E1 52E5 52E8-52EA 52EC 52F0-52F1
       52F4 52F6-52F7 5300 5303 530A-530C 5311 5313 5318 531B-531C 531E-531F 5325 5327-5329
       532B-532D 5330 5332 5335 533C-533E 5342 534C 534B 5359 535B 5361 5363 5365 536C-536D 5372
       5379 537E 5383 5387-5388 538E 5393-5394 5399 539D 53A1 53A4 53AA-53AB 53AF 53B2 53B4-53B5
       53B7-53B8 53BA 53BD 53C0 53C5 53CF 53D2-53D3 53D5 53DA 53DD-53DE 53E0 53E6-53E7 53F5 5402
       5413 541A 5421 5427-5428 542A 542F 5431 5434-5435 5443-5444 5447 544D 544F 545E 5462 5464
       5466-5467 5469 546B 546D-546E 5474 547F 5481 5483 5485 5488-5489 548D 5491 5495-5496 549C
       549F 54A1 54A6-54A7 54A9-54AA 54AD-54AE 54B1 54B7 54B9-54BB 54BF 54C6 54CA 54CD-54CE 54E0
       54EA 54EC 54EF 54F6 54FC 54FE-5501 5505 5508-5509 550C-550E 5515 552A-552B 5532 5535-5536
       553B-553D 5541 5547 5549-554A 554D 5550-5551 5558 555A-555B 555E 5560-5561 5564 5566 557F
       5581-5582 5586 5588 558E-558F 5591-5594 5597 55A3-55A4 55AD 55B2 55BF 55C1 55C3 55C6 55C9
       55CB-55CC 55CE 55D1-55D3 55D7-55D8 55DB 55DE 55E2 55E9 55F6 55FF 5605 5608 560A 560D-5612
       5619 562C 5630 5633 5635 5637 5639 563B-563D 563F-5641 5643-5644 5646 5649 564B 564D 564F
       5654 565E 5660-5663 5666 5669 566D 566F 5671-5672 5675 5684-5685 5688 568B-568C 5695
       5699-569A 569D-569F 56A6-56A9 56AB-56AD 56B1 56B3 56B7 56BE 56C5 56C9-56CB 56CF-56D0
       56CC-56CD 56D9 56DC-56DD 56DF 56E1 56E4-56E8 56F1 56EB 56ED 56F6-56F7 5701-5702 5707 570A
       570C 5711 5715 571A-571B 571D 5720 5722-5725 5729-572A 572C 572E-572F 5733-5734 573D-573F
       5745-5746 574C-574D 5752 5762 5765 5767-5768 576B 576D-5771 5773-5775 5777 5779-577C 577E
       5781 5783 578C 5794 5797 5799-579A 579C-579F 57A1 5795 57A7-57A9 57AC 57B8 57BD 57C7-57C8
       57CC 57CF 57D5 57DD-57DE 57E4 57E6-57E7 57E9 57ED 57F0 57F5-57F6 57F8 57FD-57FF 5803-5804
       5808-5809 57E1 580C-580D 581B 581E-5820 5826-5827 582D 5832 5839 583F 5849 584C-584D
       584F-5850 5855 585F 5861 5864 5867-5868 5878 587C 587F-5881 5887-588A 588C-588D 588F-5890
       5894 5896 589D 58A0-58A2 58A6 58A9 58B1-58B2 58C4 58BC 58C2 58C8 58CD-58CE 58D0 58D2 58D4
       58D6 58DA 58DD 58E1-58E2 58E9 58F3 5905-5906 590B-590C 5912-5914 8641 591D 5921 5923-5924
       5928 592F-5930 5933 5935-5936 593F 5943 5946 5952-5953 5959 595B 595D-595F 5961 5963 596B
       596D 596F 5972 5975-5976 5979 597B-597C 598B-598C 598E 5992 5995 5997 599F 59A4 59A7
       59AD-59B0 59B3 59B7 59BA 59BC 59C1 59C3-59C4 59C8 59CA 59CD 59D2 59DD-59DF 59E3-59E4 59E7
       59EE-59EF 59F1-59F2 59F4 59F7 5A00 5A04 5A0C-5A0E 5A12-5A13 5A1E 5A23-5A24 5A27-5A28 5A2A
       5A2D 5A30 5A44-5A45 5A47-5A48 5A4C 5A50 5A55 5A5E 5A63 5A65 5A67 5A6D 5A77 5A7A-5A7B 5A7E
       5A8B 5A90 5A93 5A96 5A99 5A9C 5A9E-5AA0 5AA2 5AA7 5AAC 5AB1-5AB3 5AB5 5AB8 5ABA-5ABB 5ABF
       5AC4 5AC6 5AC8 5ACF 5ADA 5ADC 5AE0 5AE5 5AEA 5AEE 5AF5-5AF6 5AFD 5B00-5B01 5B08 5B17 5B34
       5B19 5B1B 5B1D 5B21 5B25 5B2D 5B38 5B41 5B4B-5B4C 5B52 5B56 5B5E 5B68 5B6E-5B6F 5B7C-5B7F
       5B81 5B84 5B86 5B8A 5B8E 5B90-5B91 5B93-5B94 5B96 5BA8-5BA9 5BAC-5BAD 5BAF 5BB1-5BB2 5BB7
       5BBA 5BBC 5BC0-5BC1 5BCD 5BCF 5BD6-5BDA 5BE0 5BEF 5BF1 5BF4 5BFD 5C0C 5C17 5C1E-5C1F 5C23
       5C26 5C29 5C2B-5C2C 5C2E 5C30 5C32 5C35-5C36 5C59-5C5A 5C5C 5C62-5C63 5C67-5C69 5C6D 5C70
       5C74-5C75 5C7A-5C7D 5C87-5C88 5C8A 5C8F 5C92 5C9D 5C9F-5CA0 5CA2-5CA3 5CA6 5CAA 5CB2
       5CB4-5CB5 5CBA 5CC9 5CCB 5CD2 5CDD 5CD7 5CEE 5CF1-5CF2 5CF4 5D01 5D06 5D0D 5D12 5D2B
       5D23-5D24 5D26-5D27 5D31 5D34 5D39 5D3D 5D3F 5D42-5D43 5D46 5D48 5D55 5D51 5D59 5D4A
       5D5F-5D62 5D64 5D6A 5D6D 5D70 5D79-5D7A 5D7E-5D7F 5D81 5D83 5D88 5D8A 5D92-5D95 5D99 5D9B
       5D9F-5DA0 5DA7 5DAB 5DB0 5DB4 5DB8-5DB9 5DC3 5DC7 5DCB 5DD0 5DCE 5DD8-5DD9 5DE0 5DE4 5DE9
       5DF8-5DF9 5E00 5E07 5E0D 5E12 5E14-5E15 5E18 5E1F-5E20 5E2E 5E28 5E32 5E35 5E3E 5E4B 5E50
       5E49 5E51 5E56 5E58 5E5B-5E5C 5E5E 5E68 5E6A-5E6E 5E70 5E80 5E8B 5E8E 5EA2 5EA4-5EA5 5EA8
       5EAA 5EAC 5EB1 5EB3 5EBD-5EBF 5EC6 5ECC 5ECB 5ECE 5ED1-5ED2 5ED4-5ED5 5EDC 5EDE 5EE5 5EEB
       5F02 5F06-5F08 5F0E 5F19 5F1C-5F1D 5F21-5F24 5F28 5F2B-5F2C 5F2E 5F30 5F34 5F36 5F3B 5F3D
       5F3F-5F40 5F44-5F45 5F47 5F4D 5F50 5F54 5F58 5F5B 5F60 5F63-5F64 5F67 5F6F 5F72 5F74-5F75
       5F78 5F7A 5F7D-5F7E 5F89 5F8D 5F8F 5F96 5F9C-5F9D 5FA2 5FA7 5FAB 5FA4 5FAC 5FAF-5FB1 5FB8
       5FC4 5FC7-5FC9 5FCB 5FD0-5FD4 5FDE 5FE1-5FE2 5FE8-5FEA 5FEC-5FEF 5FF2-5FF3 5FF6 5FFA 5FFC
       6007 600A 600D 6013-6014 6017-6018 601A 601F 6024 602D 6033 6035 6040 6047-6049 604C 6051
       6054 6056-6057 605D 6061 6067 6071 607E-607F 6082 6086 6088 608A 608E 6091 6093 6095 6098
       609D-609E 60A2 60A4-60A5 60A8 60B0-60B1 60B7 60BB 60BE 60C2 60C4 60C8-60CB 60CE-60CF
       60D4-60D5 60D9 60DB 60DD-60DE 60E2 60E5 60F2 60F5 60F8 60FC-60FD 6102 6107 610A 610C
       6110-6114 6116-6117 6119 611C 611E 6122 612A-612B 6130-6131 6135-6137 6139 6141 6145-6146
       6149 615E 6160 616C 6172 6178 617B-617C 617F-6181 6183-6184 618B 618D 6192-6193 6197-6198
       619C-619D 619F-61A0 61A5 61A8 61AA 61AD 61B8-61B9 61BC 61C0-61C2 61CE-61CF 61D5 61DC-61DF
       61E1-61E2 61E7 61E9 61E5 61EC-61ED 61EF 6201 6203-6204 6207 6213 6215 621C 6220 6222-6223
       6227 6229 622B 6239 623D 6242-6244 6246 624C 6250-6252 6254 6256 625A 625C 6264 626D 626F
       6273 627A 627D 628D-6290 62A6 62A8 62B3 62B6-62B7 62BA 62BE-62BF 62C4 62CE 62D5-62D6 62DA
       62EA 62F2 62F4 62FC-62FD 6303-6304 630A-630B 630D 6310 6313 6316 6318 6329-632A 632D
       6335-6336 6339 633C 6341-6344 6346 634A-634B 634E 6352-6354 6358 635B 6365-6366 636C-636D
       6371 6374-6375 6378 637C-637D 637F 6382 6384 6387 638A 6390 6394-6395 6399-639A 639E 63A4
       63A6 63AD-63AF 63BD 63C1 63C5 63C8 63CE 63D1 63D3-63D5 63DC 63E0 63E5 63EA 63EC 63F2-63F3
       63F5 63F8-63F9 6409-640A 6410 6412 6414 6418 641E 6420 6422 6424-6425 6429-642A 642F-6430
       6435 643D 643F 644B 644F 6451-6454 645A-645D 645F-6461 6463 646D 6473-6474 647B 647D 6485
       6487 648F-6491 6498-6499 649B 649D 649F 64A1 64A3 64A6 64A8 64AC 64B3 64BD-64BF 64C4
       64C9-64CC 64CE 64D0-64D1 64D5 64D7 64E4-64E5 64E9-64EA 64ED 64F0 64F5 64F7 64FB 64FF 6501
       6504 6508-650A 650F 6513-6514 6516 6519 651B 651E-651F 6522 6526 6529 652E 6531 653A
       653C-653D 6543 6547 6549 6550 6552 6554 655F-6560 6567 656B 657A 657D 6581 6585 658A 6592
       6595 6598 659D 65A0 65A3 65A6 65AE 65B2-65B4 65BF 65C2 65C8-65C9 65CE 65D0 65D4 65D6 65D8
       65DF 65F0 65F2 65F4-65F5 65F9 65FE-6600 6604 6608-6609 660D 6611-6612 6615-6616 661D-661E
       6621-6624 6626 6629-662C 662E 6630-6631 6633 6639 6637 6640 6645-6646 664A 664C 6651 664E
       6657-6659 665B-665C 6660-6661 66FB 666A-666C 667E 6673 6675 667F 6677-6679 667B 6680 667C
       668B-668D 6690 6692 6699-669C 669F-66A0 66A4 66AD 66B1-66B2 66B5 66BB 66BF-66C0 66C2-66C3
       66C8 66CC 66CE-66CF 66D4 66DB 66DF 66E8 66EB-66EC 66EE 66FA 6705 6707 670E 6713 6719 671C
       6720 6722 6733 673E 6745 6747-6748 674C 6754-6755 675D 6766 676C 676E 6774 6776 677B 6781
       6784 678E-678F 6791 6793 6796 6798-6799 679B 67B0-67B2 67B5 67BB-67BD 67F9 67C0 67C2-67C3
       67C5 67C8-67C9 67D2 67D7 67D9 67DC 67E1 67E6 67F0 67F2 67F6-67F7 6852 6814 6819 681D 681F
       6828 6827 682C-682D 682F-6831 6833 683B 683F 6844-6845 684A 684C 6855 6857-6858 685B 686B
       686E-6872 6875 6879-687C 6882 6884 6886 6888 6896 6898 689A 689C 68A1 68A3 68A5 68A9-68AA
       68AE 68B2 68BB 68C5 68C8 68CC 68CF-68D1 68D3 68D6 68D9 68DC-68DD 68E5 68E8 68EA-68ED
       68F0-68F1 68F5-68F6 68FB-68FD 6906 6909-690A 6910-6911 6913 6916-6917 6931 6933 6935 6938
       693B 6942 6945 6949 694E 6957 695B 6963-6966 6968-6969 696C 6970-6972 697A-697B 697F-6980
       698D 6992 6996 6998 69A1 69A5-69A6 69A8 69AB 69AD 69AF 69B7-69B8 69BA 69BC 69C5 69C8 69D1
       69D6-69D7 69E2 69E5 69EE-69EF 69F1 69F3 69F5 69FE 6A00-6A01 6A03 6A0F 6A11 6A15 6A1A 6A1D
       6A20 6A24 6A28 6A30 6A32 6A34 6A37 6A3B 6A3E-6A3F 6A45-6A46 6A49-6A4A 6A4E 6A50-6A52
       6A55-6A56 6A5B 6A64 6A67 6A6A 6A71 6A73 6A7E 6A81 6A83 6A86-6A87 6A89 6A8B 6A91 6A9B
       6A9D-6A9F 6AA5 6AAB 6AAF-6AB1 6AB4 6ABD-6ABF 6AC6 6AC9 6AC8 6ACC 6AD0 6AD4-6AD6 6ADC-6ADD
       6AE4 6AE7 6AEC 6AF0-6AF2 6AFC-6AFD 6B02-6B03 6B06-6B07 6B09 6B0F-6B11 6B17 6B1B 6B1E 6B24
       6B28 6B2B-6B2C 6B2F 6B35-6B36 6B3B 6B3F 6B46 6B4A 6B4D 6B52 6B56 6B58 6B5D 6B60 6B67 6B6B
       6B6E 6B70 6B75 6B7D-6B7E 6B82 6B85 6B97 6B9B 6B9F-6BA0 6BA2-6BA3 6BA8-6BA9 6BAC-6BAE 6BB0
       6BB8-6BB9 6BBD-6BBE 6BC3-6BC4 6BC9 6BCC 6BD6 6BDA 6BE1 6BE3 6BE6-6BE7 6BEE 6BF1 6BF7 6BF9
       6BFF 6C02 6C04-6C05 6C09 6C0D-6C0E 6C10 6C12 6C19 6C1F 6C26-6C28 6C2C 6C2E 6C33 6C35-6C36
       6C3A-6C3B 6C3F 6C4A-6C4B 6C4D 6C4F 6C52 6C54 6C59 6C5B-6C5C 6C6B 6C6D 6C6F 6C74 6C76
       6C78-6C79 6C7B 6C85-6C87 6C89 6C94-6C95 6C97-6C98 6C9C 6C9F 6CB0 6CB2 6CB4 6CC2 6CC6 6CCD
       6CCF-6CD2 6CD4 6CD6 6CDA 6CDC 6CE0 6CE7 6CE9 6CEB-6CEC 6CEE 6CF2 6CF4 6D04 6D07 6D0A
       6D0E-6D0F 6D11 6D13 6D1A 6D26-6D28 6C67 6D2E-6D2F 6D31 6D39 6D3C 6D3F 6D57 6D5E-6D5F 6D61
       6D65 6D67 6D6F-6D70 6D7C 6D82 6D87 6D91-6D92 6D94 6D96-6D98 6DAA 6DAC 6DB4 6DB7 6DB9 6DBD
       6DBF 6DC4 6DC8 6DCA 6DCE-6DCF 6DD6 6DDB 6DDD 6DDF-6DE0 6DE2 6DE5 6DE9 6DEF-6DF0 6DF4 6DF6
       6DFC 6E00 6E04 6E1E 6E22 6E27 6E32 6E36 6E39 6E3B-6E3C 6E44-6E45 6E48-6E49 6E4B 6E4F
       6E51-6E54 6E57 6E5C-6E5E 6E62-6E63 6E68 6E73 6E7B 6E7D 6E8D 6E93 6E99 6EA0 6EA7 6EAD-6EAE
       6EB1 6EB3 6EBB 6EBF-6EC1 6EC3 6EC7-6EC8 6ECA 6ECD-6ECF 6EEB 6EED-6EEE 6EF9 6EFB 6EFD 6F04
       6F08 6F0A 6F0C-6F0D 6F16 6F18 6F1A-6F1B 6F26 6F29-6F2A 6F2F-6F30 6F33 6F36 6F3B-6F3C 6F2D
       6F4F 6F51-6F53 6F57 6F59-6F5A 6F5D-6F5E 6F61-6F62 6F68 6F6C 6F7D-6F7E 6F83 6F87-6F88
       6F8B-6F8D 6F90 6F92-6F94 6F96 6F9A 6F9F-6FA0 6FA5-6FA8 6FAE-6FB0 6FB5-6FB6 6FBC 6FC5
       6FC7-6FC8 6FCA 6FDA 6FDE 6FE8-6FE9 6FF0 6FF5 6FF9 6FFC-6FFD 7000 7005-7007 700D 7017 7020
       7023 702F 7034 7037 7039 703C 7043-7044 7048-704B 7054-7055 705D-705E 704E 7064-7065 706C
       706E 7075-7076 707E 7081 7085-7086 7094-7098 709B 70A4 70AB 70B0-70B1 70B4 70B7 70CA 70D1
       70D3-70D6 70D8 70DC 70E4 70FA 7103-7107 710B-710C 710F 711E 7120 712B 712D 712F-7131 7138
       7141 7145-7147 714A-714B 7150 7152 7157 715A 715C 715E 7160 7168 7179 7180 7185 7187 718C
       7192 719A-719B 71A0 71A2 71AF-71B0 71B2-71B3 71BA 71BF-71C1 71C4 71CB-71CC 71D3 71D6
       71D9-71DA 71DC 71F8 71FE 7200 7207-7209 7213 7217 721A 721D 721F 7224 722B 722F 7234
       7238-7239 7241-7243 7245 724E-7250 7253 7255-7256 725A 725C 725E 7260 7263 7268 726B
       726E-726F 7271 7277-7278 727B-727C 727F 7284 7289 728D-728E 7293 729B 72A8 72AD-72AE 72B1
       72B4 72BE 72C1 72C7 72C9 72CC 72D5-72D6 72D8 72DF 72E5 72F3-72F4 72FA-72FB 72FE 7302
       7304-7305 7307 730B 730D 7312-7313 7318-7319 731E 7322 7324 7327-7328 732C 7331-7332 7335
       733A-733B 733D 7343 734D 7350 7352 7356 7358 735D-7360 7366-7367 7369 736B-736C 736E-736F
       7371 7377 7379 737C 7380-7381 7383 7385-7386 738E 7390 7393 7395 7397-7398 739C 739E-73A0
       73A2 73A5-73A6 73AA-73AB 73AD 73B5 73B7 73B9 73BC-73BD 73BF 73C5-73C6 73C9 73CB-73CC 73CF
       73D2-73D3 73D6 73D9 73DD 73E1 73E3 73E6-73E7 73E9 73F4-73F5 73F7 73F9-73FB 73FD 73FF-7401
       7404 7407 740A 7411 741A-741B 7424 7426 7428-7431 7439 7440 7443-7444 7446-7447 744B 744D
       7451-7452 7457 745D 7462 7466-7468 746B 746D-746E 7471-7472 7480-7481 7485-7487 7489
       748F-7492 7498-749A 749C 749F-74A1 74A3 74A6 74A8-74AB 74AE-74AF 74B1-74B2 74B5 74B9 74BB
       74BF 74C8-74C9 74CC 74D0 74D3 74D8 74DA-74DB 74DE-74DF 74E4 74E8 74EA-74EB 74EF 74F4
       74FA-74FC 74FF 7506 7512 7516-7517 7520-7521 7524 7527 7529-752A 752F 7536 7539 753D-7540
       7543 7547-7548 754E 7550 7552 7557 755E-755F 7561 756F 7571 7579-757E 7581 7585 7590
       7592-7593 7595 7599 759C 75A2 75A4 75B4 75BA 75BF-75C1 75C4 75C6 75CC 75CE-75CF 75D7 75DC
       75DF-75E1 75E4 75E7 75EC 75EE-75EF 75F1 75F9 7600 7602-7604 7607-7608 760A 760C 760F
       7612-7613 7615-7616 7619 761B-761E 7623 7625-7626 7629 762D 7632-7633 7635 7638-763A 763C
       764A 7640-7641 7643-7645 7649 764B 7655 7659 765F 7664-7665 766D-766F 7671 7674 7681 7685
       768C-768D 7695 769B-769D 769F-76A0 76A2-76A8 76AA 76AD 76BD 76C1 76C5 76C9 76CB-76CC 76CE
       76D4 76D9 76E0 76E6 76E8 76EC 76F0-76F1 76F6 76F9 76FC 7700 7706 770A 770E 7712 7714-7715
       7717 7719-771A 771C 7722 7728 772D-772F 7734-7736 7739 773D-773E 7742 7745-7746 774A
       774D-774F 7752 7756-7757 775C 775E-7760 7762 7764 7767 776A 776C 7770 7772-7774 777A 777D
       7780 7784 778C-778D 7794-7796 779A 779F 77A2 77A7 77AA 77AE-77AF 77B1 77B5 77BE 77C3 77C9
       77D1-77D2 77D5 77D9 77DE-77E0 77E4 77E6 77EA 77EC 77F0-77F1 77F4 77F8 77FB 7805-7806 7809
       780D-780E 7811 781D 7821-7823 782D-782E 7830 7835 7837 7843-7844 7847-7848 784C 784E 7852
       785C 785E 7860-7861 7863-7864 7868 786A 786E 787A 787E 788A 788F 7894 7898 78A1 789D-789F
       78A4 78A8 78AC-78AD 78B0-78B3 78BB 78BD 78BF 78C7-78C9 78CC 78CE 78D2-78D3 78D5-78D6 78E4
       78DB 78DF-78E1 78E6 78EA 78F2-78F3 7900 78F6-78F7 78FA-78FB 78FF 7906 790C 7910 791A 791C
       791E-7920 7925 7927 7929 792D 7931 7934-7935 793B 793D 793F 7944-7946 794A-794B 794F 7951
       7954 7958 795B-795C 7967 7969 796B 7972 7979 797B-797C 797E 798B-798C 7991 7993-7996 7998
       799B-799C 79A1 79A8-79A9 79AB 79AF 79B1 79B4 79B8 79BB 79C2 79C4 79C7-79C8 79CA 79CF 79D4
       79D6 79DA 79DD-79DE 79E0 79E2 79E5 79EA-79EB 79ED 79F1 79F8 79FC 7A02-7A03 7A07 7A09-7A0A
       7A0C 7A11 7A15 7A1B 7A1E 7A21 7A27 7A2B 7A2D 7A2F-7A30 7A34-7A35 7A38-7A3A 7A44-7A45
       7A47-7A48 7A4C 7A55-7A56 7A59 7A5C-7A5D 7A5F-7A60 7A65 7A67 7A6A 7A6D 7A75 7A78 7A7E 7A80
       7A82 7A85-7A86 7A8A-7A8B 7A90-7A91 7A94 7A9E 7AA0 7AA3 7AAC 7AB3 7AB5 7AB9 7ABB-7ABC 7AC6
       7AC9 7ACC 7ACE 7AD1 7ADB 7AE8-7AE9 7AEB-7AEC 7AF1 7AF4 7AFB 7AFD-7AFE 7B07 7B14 7B1F 7B23
       7B27 7B29-7B2B 7B2D-7B31 7B34 7B3D 7B3F-7B41 7B47 7B4E 7B55 7B60 7B64 7B66 7B69-7B6A 7B6D
       7B6F 7B72-7B73 7B77 7B84 7B89 7B8E 7B90-7B91 7B96 7B9B 7B9E 7BA0 7BA5 7BAC 7BAF-7BB0 7BB2
       7BB5-7BB6 7BBA-7BBD 7BC2 7BC5 7BC8 7BCA 7BD4 7BD6-7BD7 7BD9-7BDB 7BE8 7BEA 7BF2 7BF4-7BF5
       7BF8-7BFA 7BFC 7BFE 7C01-7C04 7C06 7C09 7C0B-7C0C 7C0E-7C0F 7C19 7C1B 7C20 7C25-7C26 7C28
       7C2C 7C31 7C33-7C34 7C36 7C39-7C3A 7C46 7C4A 7C55 7C51-7C53 7C59-7C5E 7C61 7C63 7C67 7C69
       7C6D-7C6E 7C70 7C72 7C79 7C7C-7C7D 7C86-7C87 7C8F 7C94 7C9E 7CA0 7CA6 7CB0 7CB6-7CB7
       7CBA-7CBC 7CBF 7CC4 7CC7-7CC9 7CCD 7CCF 7CD3-7CD5 7CD7 7CD9-7CDA 7CDD 7CE6 7CE9 7CEB 7CF5
       7D03 7D07-7D09 7D0F 7D11-7D13 7D16 7D1D-7D1E 7D23 7D26 7D2A 7D2D 7D31 7D3C-7D3E 7D40-7D41
       7D47-7D48 7D4D 7D51 7D53 7D57 7D59-7D5A 7D5C-7D5D 7D65 7D67 7D6A 7D70 7D78 7D7A-7D7B 7D7F
       7D81-7D83 7D85-7D86 7D88 7D8B-7D8D 7D91 7D96-7D97 7D9D-7D9E 7DA6-7DA7 7DAA 7DB3 7DB6-7DB7
       7DB9 7DC2-7DC6 7DCC-7DCE 7DD7 7DD9 7E00 7DE2 7DE5-7DE6 7DEA-7DEB 7DED 7DF1 7DF5-7DF6
       7DF9-7DFA 7E08 7E10-7E11 7E15 7E17 7E1C-7E1D 7E20 7E27-7E28 7E2C-7E2D 7E2F 7E33 7E36 7E3F
       7E44-7E45 7E47 7E4E 7E50 7E52 7E58 7E5F 7E61-7E62 7E65 7E6B 7E6E-7E6F 7E73 7E78 7E7E 7E81
       7E86-7E87 7E8A 7E8D 7E91 7E95 7E98 7E9A 7E9D-7E9E 7F3C 7F3B 7F3D-7F3F 7F43-7F44 7F47 7F4F
       7F52-7F53 7F5B-7F5D 7F61 7F63-7F66 7F6D 7F71 7F7D-7F80 7F8B 7F8D 7F8F-7F91 7F96-7F97 7F9C
       7FA1-7FA2 7FA6 7FAA 7FAD 7FB4 7FBC 7FBF-7FC0 7FC3 7FC8 7FCE-7FCF 7FDB 7FDF 7FE3 7FE5 7FE8
       7FEC 7FEE-7FEF 7FF2 7FFA 7FFD-7FFF 8007-8008 800A 800D-800F 8011 8013-8014 8016 801D-8020
       8024 8026 802C 802E 8030 8034-8035 8037 8039-803A 803C 803E 8040 8044 8060 8064 8066 806D
       8071 8075 8081 8088 808E 809C 809E 80A6-80A7 80AB 80B8-80B9 80C8 80CD 80CF 80D2 80D4-80D5
       80D7-80D8 80E0 80ED-80EE 80F0 80F2-80F3 80F6 80F9-80FA 80FE 8103 810B 8116-8118 811C 811E
       8120 8124 8127 812C 8130 8135 813A 813C 8145 8147 814A 814C 8152 8157 8160-8161 8167-8169
       816D 816F 8177 8181 8190 8184-8186 818B 818E 8196 8198 819B 819E 81A2 81AE 81B2 81B4 81BB
       81CB 81C3 81C5 81CA 81CE-81CF 81D5 81D7 81DB 81DD-81DE 81E1 81E4 81EB-81EC 81F0-81F2
       81F5-81F6 81F8-81F9 81FD 81FF-8200 8203 820F 8213-8214 8219-821A 821D 8221-8222 8228 8232
       8234 823A 8243-8246 824B 824E-824F 8251 8256 825C 8260 8263 8267 826D 8274 827B 827D
       827F-8281 8283-8284 8287 8289-828A 828E 8291 8294 8296 8298 829A-829B 82A0-82A1 82A3-82A4
       82A7-82AA 82AE 82B0 82B2 82B4 82B7 82BA 82BC 82BE-82BF 82C6 82D0 82D5 82DA 82E0 82E2 82E4
       82E8 82EA 82ED 82EF 82F6-82F7 82FD-82FE 8300-8301 8307-8308 830A-830B 8354 831B 831D-831F
       8321-8322 832C-832E 8330 8333 8337 833A 833C-833D 8342-8344 8347 834D-834E 8351 8355-8357
       8370 8378 837D 837F-8380 8382 8384 8386 838D 8392 8394-8395 8398-8399 839B-839D 83A6-83A7
       83A9 83AC 83BE-83C0 83C7 83C9 83CF-83D1 83D4 83DD 8353 83E8 83EA 83F6 83F8-83F9 83FC 8401
       8406 840A 840F 8411 8415 8419 83AD 842F 8439 8445 8447-8448 844A 844D 844F 8451-8452 8456
       8458-845A 845C 8460 8464-8465 8467 846A 8470 8473-8474 8476 8478 847C-847D 8481 8485
       8492-8493 8495 849E 84A6 84A8-84AA 84AF 84B1 84B4 84BA 84BD-84BE 84C0 84C2 84C7-84C8 84CC
       84CF 84D3 84DC 84E7 84EA 84EF-84F2 84F7 8532 84FA-84FB 84FD 8502-8503 8507 850C 850E 8510
       851C 851E 8522-8525 8527 852A-852B 852F 8533-8534 8536 853F 8546 854F-8553 8556 8559
       855C-8562 8564 856B 856F 8579-857B 857D 857F 8581 8585-8586 8589 858B-858C 858F 8593 8598
       859D 859F-85A0 85A2 85A5 85A7 85B4 85B6-85B8 85BC-85BF 85C2 85C7 85CA-85CB 85CE 85AD 85D8
       85DA 85DF-85E0 85E6 85E8 85ED 85F3 85F6 85FC 85FF-8600 8604-8605 860D-860E 8610-8612
       8618-8619 861B 861E 8621 8627 8629 8636 8638 863A 863C-863D 8640 8642 8646 8652-8653
       8656-8659 865D 8660-8664 8669 866C 866F 8675-8677 867A 868D 8691 8696 8698 869A 869C 86A1
       86A6-86A8 86AD 86B1 86B3-86B5 86B7-86B9 86BF-86C1 86C3 86C5 86D1-86D2 86D5 86D7 86DA 86DC
       86E0 86E3 86E5 86E7 8688 86FA 86FC-86FD 8704-8705 8707 870B 870E-8710 8713-8714 8719
       871E-871F 8721 8723 8728 872E-872F 8731-8732 8739-873A 873C-873E 8740 8743 8745 874D 8758
       875D 8761 8764-8765 876F 8771-8772 877B 8783-8789 878B-878C 8790 8793 8795 8797-8799 879E
       87A0 87A3 87A7 87AC-87AE 87B1 87B5 87BE-87BF 87C1 87C8-87CA 87CE 87D5-87D6 87D9-87DA 87DC
       87DF 87E2-87E4 87EA-87EB 87ED 87F1 87F3 87F8 87FA 87FF 8801 8803 8806 8809-880B 8810 8819
       8812-8814 8818 881A-881C 881E-881F 8828 882D-882E 8830 8832 8835 883A 883C 8841 8843 8845
       8848-884B 884E 8851 8855-8856 8858 885A 885C 885F-8860 8864 8869 8871 8879 887B 8880 8898
       889A-889C 889F-88A0 88A8 88AA 88BA 88BD-88BE 88C0 88CA-88CE 88D1-88D3 88DB 88DE 88E7
       88EF-88F1 88F5 88F7 8901 8906 890D-890F 8915-8916 8918-891A 891C 8920 8926-8928 8930-8932
       8935 8939-893A 893E 8940 8942 8945-8946 8949 894F 8952 8957 895A-895C 8961-8963 896B 896E
       8970 8973 8975 897A-897D 8989 898D 8990 8994-8995 899B-899C 899F-89A0 89A5 89B0 89B4-89B7
       89BC 89D4-89D8 89E5 89E9 89EB 89ED 89F1 89F3 89F6 89F9 89FD 89FF 8A04-8A05 8A07 8A0F
       8A11-8A12 8A14-8A15 8A1E 8A20 8A22 8A24 8A26 8A2B-8A2C 8A2F 8A35 8A37 8A3D-8A3E 8A40 8A43
       8A45 8A47 8A49 8A4D-8A4E 8A53 8A56-8A58 8A5C-8A5D 8A61 8A65 8A67 8A75-8A77 8A79-8A7B
       8A7E-8A80 8A83 8A86 8A8B 8A8F-8A90 8A92 8A96-8A97 8A99 8A9F 8AA7 8AA9 8AAE-8AAF 8AB3
       8AB6-8AB7 8ABB 8ABE 8AC3 8AC6 8AC8-8ACA 8AD1 8AD3-8AD5 8AD7 8ADD 8ADF 8AEC 8AF0 8AF4-8AF6
       8AFC 8AFF 8B05-8B06 8B0B 8B11 8B1C 8B1E-8B1F 8B0A 8B2D 8B30 8B37 8B3C 8B42-8B46 8B48
       8B52-8B54 8B59 8B4D 8B5E 8B63 8B6D 8B76 8B78-8B79 8B7C 8B7E 8B81 8B84-8B85 8B8B 8B8D 8B8F
       8B94-8B95 8B9C 8B9E-8B9F 8C38-8C39 8C3D-8C3E 8C45 8C47 8C49 8C4B 8C4F 8C51 8C53-8C54
       8C57-8C58 8C5B 8C5D 8C59 8C63-8C64 8C66 8C68-8C69 8C6D 8C73 8C75-8C76 8C7B 8C7E 8C86-8C87
       8C8B 8C90 8C92-8C93 8C99 8C9B-8C9C 8CA4 8CB9-8CBA 8CC5-8CC6 8CC9 8CCB 8CCF 8CD6 8CD5 8CD9
       8CDD 8CE1 8CE8 8CEC 8CEF-8CF0 8CF2 8CF5 8CF7-8CF8 8CFE-8CFF 8D01 8D03 8D09 8D12 8D17 8D1B
       8D65 8D69 8D6C 8D6E 8D7F 8D82 8D84 8D88 8D8D 8D90-8D91 8D95 8D9E-8DA0 8DA6 8DAB-8DAC 8DAF
       8DB2 8DB5 8DB7 8DB9 8DBB 8DC0 8DC5-8DC8 8DCA 8DCE 8DD1 8DD4-8DD5 8DD7 8DD9 8DE4-8DE5 8DE7
       8DEC 8DF0 8DBC 8DF1-8DF2 8DF4 8DFD 8E01 8E04-8E06 8E0B 8E11 8E14 8E16 8E20-8E23 8E26-8E27
       8E31 8E33 8E36-8E39 8E3D 8E40-8E41 8E4B 8E4D-8E4F 8E54 8E5B-8E5E 8E61-8E62 8E69 8E6C-8E6D
       8E6F-8E71 8E79-8E7B 8E82-8E83 8E89 8E90 8E92 8E95 8E9A-8E9B 8E9D-8E9E 8EA2 8EA7 8EA9
       8EAD-8EAE 8EB3 8EB5 8EBA-8EBB 8EC0-8EC1 8EC3-8EC4 8EC7 8ECF 8ED1 8ED4 8EDC 8EE8 8EEE
       8EF0-8EF1 8EF7 8EF9-8EFA 8EED 8F00 8F02 8F07-8F08 8F0F-8F10 8F16-8F18 8F1E 8F20-8F21 8F23
       8F25 8F27-8F28 8F2C-8F2E 8F34-8F37 8F3A 8F40-8F41 8F43 8F47 8F4F 8F51-8F55 8F58 8F5D-8F5E
       8F65 8F9D 8FA0-8FA1 8FA4-8FA6 8FB5-8FB6 8FB8 8FBE 8FC0-8FC1 8FC6 8FCA-8FCB 8FCD 8FD0
       8FD2-8FD3 8FD5 8FE0 8FE3-8FE4 8FE8 8FEE 8FF1 8FF5-8FF6 8FFB 8FFE 9002 9004 9008 900C 9018
       901B 9028-9029 902F 902A 902C-902D 9033-9034 9037 903F 9043-9044 904C 905B 905D 9062
       9066-9067 906C 9070 9074 9079 9085 9088 908B-908C 908E 9090 9095 9097-9099 909B 90A0-90A2
       90A5 90B0 90B2-90B4 90B6 90BD 90CC 90BE 90C3-90C5 90C7-90C8 90D5 90D7-90D9 90DC-90DD 90DF
       90E5 90D2 90F6 90EB 90EF-90F0 90F4 90FE-9100 9104-9106 9108 910D 9110 9114 9116-9118 911A
       911C 911E 9120 9125 9122-9123 9127 9129 912E-912F 9131 9134 9136-9137 9139-913A 913C-913D
       9143 9147-9148 914F 9153 9157 9159-915B 9161 9164 9167 916D 9174 9179-917B 9181 9183
       9185-9186 918A 918E 9191 9193-9195 9198 919E 91A1 91A6 91A8 91AC-91AE 91B0-91B3 91B6
       91BB-91BD 91BF 91C2-91C3 91C5 91D3-91D4 91D7 91D9-91DA 91DE 91E4-91E5 91E9-91EA 91EC-91F1
       91F7 91F9 91FB 91FD 9200-9201 9204-9207 9209-920A 920C 9210 9212-9213 9216 9218 921C-921D
       9223-9226 9228 922E-9230 9233 9235-9236 9238-923A 923C 923E 9240 9242-9243 9246-9247 924A
       924D-924F 9251 9258-9259 925C-925D 9260-9261 9265 9267-9269 926E-9270 9275-9279 927B-927D
       927F 9288-928A 928D-928E 9292 9297 9299 929F-92A0 92A4-92A5 92A7-92A8 92AB 92AF 92B2 92B6
       92B8 92BA-92BD 92BF-92C3 92C5-92C8 92CB-92CE 92D0 92D3 92D5 92D7-92D9 92DC-92DD 92DF-92E1
       92E3 92E5 92E7-92E8 92EC 92EE 92F0 92F9 92FB 92FF-9300 9302 9308 930D 9311 9314-9315
       931C-931F 9321 9324-9325 9327 9329-932A 9333-9334 9336-9337 9347-9349 9350-9352 9355
       9357-9358 935A 935E 9364-9365 9367 9369-936A 936D 936F-9371 9373-9374 9376 937A 937D
       937F-9382 9388 938A-938B 938D 938F 9392 9395 9398 939B 939E 93A1 93A3-93A4 93A6 93A8 93AB
       93B4-93B6 93BA 93A9 93C1 93C4-93C7 93C9-93CD 93D3 93D9 93DC 93DE-93DF 93E2 93E6-93E7 93F9
       93F7-93F8 93FA-93FB 93FD 9401-9402 9404 9408-9409 940D-940F 9415-9417 941F 942E-942F
       9431-9434 943B 943F 943D 9443 9445 9448 944A 944C 9455 9459 945C 945F 9461 9463 9468 946B
       946D-946F 9471-9472 9484 9483 9578-9579 957E 9584 9588 958C-958E 959D-959F 95A1 95A6 95A9
       95AB-95AC 95B4 95B6 95BA 95BD 95BF 95C6 95C8-95C9 95CB 95D0-95D3 95D9-95DA 95DD-95E0 95E4
       95E6 961D-961E 9622 9624-9626 962C 9631 9633 9637-963A 963C-963D 9641 9652 9654 9656-9658
       9661 966E 9674 967B-967C 967E-967F 9681-9684 9689 9691 9696 969A 969D 969F 96A4-96A6 96A9
       96AE-96AF 96B3 96BA 96CA 96D2 5DB2 96D8 96DA 96DD-96DF 96E9 96EF 96F1 96FA 9702-9703 9705
       9709 971A-971B 971D 9721-9723 9728 9731 9733 9741 9743 974A 974E-974F 9755 9757-9758
       975A-975B 9763 9767 976A 976E 9773 9776-9778 977B 977D 977F-9780 9789 9795-9797 9799-979A
       979E-979F 97A2 97AC 97AE 97B1-97B2 97B5-97B6 97B8-97BA 97BC 97BE-97BF 97C1 97C4-97C5 97C7
       97C9-97CA 97CC-97CE 97D0-97D1 97D4 97D7-97D9 97DD-97DE 97E0 97DB 97E1 97E4 97EF 97F1 97F4
       97F7-97F8 97FA 9807 980A 9819 980D-980E 9814 9816 981C 981E 9820 9823 9826 982B 982E-9830
       9832-9833 9835 9825 983E 9844 9847 984A 9851-9853 9856-9857 9859-985A 9862-9863 9865-9866
       986A 986C 98AB 98AD-98AE 98B0 98B4 98B7-98B8 98BA-98BB 98BF 98C2 98C5 98C8 98CC 98E1 98E3
       98E5-98E7 98EA 98F3 98F6 9902 9907-9908 9911 9915-9917 991A-991C 991F 9922 9926-9927 992B
       9931-9935 9939-993C 9940-9941 9946-9948 994D-994E 9954 9958-9959 995B-995C 995E-9960 999B
       999D 999F 99A6 99B0-99B2 99B5 99B9-99BA 99BD 99BF 99C3 99C9 99D3-99D4 99D9-99DA 99DC 99DE
       99E7 99EA-99EC 99F0 99F4-99F5 99F9 99FD-99FE 9A02-9A04 9A0B-9A0C 9A10-9A11 9A16 9A1E 9A20
       9A22-9A24 9A27 9A2D-9A2E 9A33 9A35-9A36 9A38 9A47 9A41 9A44 9A4A-9A4C 9A4E 9A51 9A54 9A56
       9A5D 9AAA 9AAC 9AAE-9AAF 9AB2 9AB4-9AB6 9AB9 9ABB 9ABE-9ABF 9AC1 9AC3 9AC6 9AC8 9ACE 9AD0
       9AD2 9AD5-9AD7 9ADB-9ADC 9AE0 9AE4-9AE5 9AE7 9AE9 9AEC 9AF2-9AF3 9AF5 9AF9-9AFA 9AFD
       9AFF-9B05 9B08-9B09 9B0B-9B0E 9B10 9B12 9B16 9B19 9B1B-9B1C 9B20 9B26 9B2B 9B2D 9B33-9B35
       9B37 9B39-9B3A 9B3D 9B48 9B4B-9B4C 9B55-9B57 9B5B 9B5E 9B61 9B63 9B65-9B66 9B68 9B6A-9B6E
       9B73 9B75 9B77-9B79 9B7F-9B80 9B84-9B87 9B89-9B8B 9B8D 9B8F-9B90 9B94 9B9A 9B9D-9B9E
       9BA6-9BA7 9BA9 9BAC 9BB0-9BB2 9BB7-9BB8 9BBB-9BBC 9BBE-9BBF 9BC1 9BC7-9BC8 9BCE 9BD0
       9BD7-9BD8 9BDD 9BDF 9BE5 9BE7 9BEA-9BEB 9BEF 9BF3 9BF7-9BFA 9BFD 9BFF-9C00 9C02 9C0B 9C0F
       9C11 9C16 9C18-9C1A 9C1C 9C1E 9C22-9C23 9C26-9C2A 9C31 9C35-9C37 9C3D 9C41 9C43-9C45
       9C49-9C4A 9C4E-9C50 9C53-9C54 9C56 9C58 9C5B 9C5D-9C5F 9C63 9C69-9C6A 9C5C 9C6B 9C68 9C6E
       9C70 9C72 9C75 9C77 9C7B 9CE6 9CF2 9CF7 9CF9 9D0B 9D02 9D11 9D17-9D18 9D1C-9D1E 9D2F-9D30
       9D32-9D34 9D3A 9D3C 9D45 9D3D 9D42-9D43 9D47 9D4A 9D53-9D54 9D5F 9D63 9D62 9D65 9D69-9D6B
       9D70 9D76-9D77 9D7B-9D7C 9D7E 9D83-9D84 9D86 9D8A 9D8D-9D8E 9D92-9D93 9D95-9D98 9DA1 9DAA
       9DAC 9DAE 9DB1 9DB5 9DB9 9DBC 9DBF 9DC3 9DC7 9DC9-9DCA 9DD4-9DD7 9DDA 9DDE-9DE0 9DE5 9DE7
       9DE9 9DEB 9DEE 9DF0 9DF3-9DF4 9DFE 9E0A 9E02 9E07 9E0E 9E10-9E12 9E15-9E16 9E19 9E1C-9E1D
       9E7A-9E7C 9E80 9E82-9E85 9E87 9E8E-9E8F 9E96 9E98 9E9B 9E9E 9EA4 9EA8 9EAC 9EAE-9EB0
       9EB3-9EB5 9EC6 9EC8 9ECB 9ED5 9EDF 9EE4 9EE7 9EEC-9EEE 9EF0-9EF2 9EF5 9EF8 9EFF 9F02-9F03
       9F09 9F0F-9F12 9F14 9F16-9F17 9F19-9F1B 9F1F 9F22 9F26 9F2A-9F2B 9F2F 9F31-9F32 9F34 9F37
       9F39-9F3A 9F3C-9F3D 9F3F 9F41 9F43-9F47 9F53 9F55-9F58 9F5A 9F5D-9F5E 9F68-9F69 9F6D-9F71
       9F73 9F75 9F7A 9F7D 9F8F-9F92 9F94 9F96-9F97 9F9E 9FA1-9FA3 9FA5")]

end RecipientRewriting.Charset
