import RecipientRewriting.Charset.Basic

/-!
# The Chinese national character set

The characters of two octets, in rows of 190 by the first octet from 81, and the
characters of four octets below U+10000, in the order of their code points.
-/

namespace RecipientRewriting.Charset

/-- The characters of two octets. -/
def gb18030Table : CodeTable :=
  [(0,
      "4E02 4E04-4E06 4E0F 4E12 4E17 4E1F-4E21 4E23 4E26 4E29 4E2E-4E2F 4E31 4E33 4E35 4E37 4E3C
       4E40-4E42 4E44 4E46 4E4A 4E51 4E55 4E57 4E5A-4E5B 4E62-4E65 4E67-4E68 4E6A-4E6F 4E72
       4E74-4E7D 4E7F-4E85 4E87 4E8A 4E90 4E96-4E97 4E99 4E9C-4E9E 4EA3 4EAA 4EAF-4EB1 4EB4
       4EB6-4EB9 4EBC-4EBE 4EC8 4ECC 4ECF-4ED0 4ED2 4EDA-4EDC 4EE0 4EE2 4EE6-4EE7 4EE9 4EED-4EEF
       4EF1 4EF4 4EF8-4EFA 4EFC 4EFE 4F00 4F02-4F08 4F0B-4F0C 4F12-4F16 4F1C-4F1D 4F21 4F23
       4F28-4F29 4F2C-4F2E 4F31 4F33 4F35 4F37 4F39 4F3B 4F3E-4F42 4F44-4F45 4F47-4F4C 4F52 4F54
       4F56 4F61-4F62 4F66 4F68 4F6A-4F6B 4F6D-4F6E 4F71-4F72 4F75 4F77-4F7A 4F7D 4F80-4F82
       4F85-4F87 4F8A 4F8C 4F8E 4F90 4F92-4F93 4F95-4F96 4F98-4F9A 4F9C 4F9E-4F9F 4FA1-4FA2 4FA4
       4FAB 4FAD 4FB0-4FB4 4FB6-4FBE 4FC0-4FC2 4FC6-4FC9 4FCB-4FCD 4FD2-4FD6 4FD9 4FDB 4FE0 4FE2
       4FE4-4FE5 4FE7 4FEB-4FEC 4FF0 4FF2 4FF4-4FF7 4FF9 4FFB-4FFD 4FFF-500B 500E 5010-5011 5013
       5015-5017 501B 501D-501E 5020 5022-5024 5027 502B 502F-5039 503B 503D 503F-5042 5044-5046
       5049-504B 504D 5050-5054 5056-5059 505B 505D-5064 5066-506B 506D-5075 5078-507A 507C-507D
       5081-5084 5086-5087 5089-508C 508E-50A2 50A4 50A6 50AA-50AB 50AD-50B1 50B3-50B9 50BC-50CE
       50D0-50D5 50D7-50D9 50DB-50E5 50E8-50EB 50EF-50F2 50F4 50F6-50FA 50FC-5105 5108-510A
       510C-5111 5113-5120 5122-513E 5142 5147 514A 514C 514E-5150 5152-5153 5157-5159 515B
       515D-5161 5163-5164 5166-5167 5169-516A 516F 5172 517A 517E-517F 5183-5184 5186-5187
       518A-518B 518E-5191 5193-5194 5198 519A 519D-519F 51A1 51A3 51A6-51AA 51AD-51AE 51B4
       51B8-51BA 51BE-51BF 51C1-51C3 51C5 51C8 51CA 51CD-51CE 51D0 51D2-51DA 51DC 51DE-51DF
       51E2-51E3 51E5-51EA 51EC 51EE 51F1-51F2 51F4 51F7 51FE 5204-5205 5209 520B-520C 520F-5210
       5213-5215 521C 521E-521F 5221-5223 5225-5227 522A 522C 522F 5231-5232 5234-5235 523C 523E
       5244-5249 524B 524E-524F 5252-5253 5255 5257-525B 525D 525F-5260 5262-5264 5266 5268
       526B-526E 5270-5271 5273-527C 527E 5280 5283-5287 5289-528F 5291-5292 5294-529A 529C
       52A4-52A7 52AE-52B0 52B4-52BD 52C0-52C2 52C4-52C6 52C8 52CA 52CC-52CF 52D1 52D3-52D5 52D7
       52D9-52DE 52E0-52E3 52E5-52EF 52F1-52F8 52FB-52FD 5301-5304 5307 5309-530C 530E 5311-5314
       5318 531B-531C 531E-531F 5322 5324-5325 5327-5329 532B-532D 532F-5338 533C-533D 5340 5342
       5344 5346 534B-534D 5350 5354 5358-5359 535B 535D 5365 5368 536A 536C-536D 5372 5376 5379
       537B-537E 5380-5381 5383 5387-5388 538A 538E-5394 5396-5397 5399 539B-539C 539E 53A0-53A1
       53A4 53A7 53AA-53AD 53AF-53B5 53B7-53BA 53BC-53BE 53C0 53C3-53C7 53CE-53D0 53D2-53D3 53D5
       53DA 53DC-53DE 53E1-53E2 53E7 53F4 53FA 53FE-5400 5402 5405 5407 540B 5414 5418-541A 541C
       5422 5424-5425 542A 5430 5433 5436-5437 543A 543D 543F 5441-5442 5444-5445 5447 5449
       544C-544F 5451 545A 545D-5461 5463 5465 5467 5469-5470 5474 5479-547A 547E-547F 5481 5483
       5485 5487-548A 548D 5491 5493 5497-5498 549C 549E-54A2 54A5 54AE 54B0 54B2 54B5-54B7
       54B9-54BA 54BC 54BE 54C3 54C5 54CA-54CB 54D6 54D8 54DB 54E0-54E4 54EB-54EC 54EF-54F1
       54F4-54F9 54FB 54FE 5500 5502-5505 5508 550A-550E 5512-5513 5515-551A 551C-551F 5521
       5525-5526 5528-5529 552B 552D 5532 5534-5536 5538-553B 553D 5540 5542 5545 5547-5548
       554B-554F 5551-5554 5557-555B 555D-5560 5562-5563 5568-5569 556B 556F-5574 5579-557A 557D
       557F 5585-5586 558C-558E 5590 5592-5593 5595-5597 559A-559B 559E 55A0-55A6 55A8-55B0 55B2
       55B4 55B6 55B8 55BA 55BC 55BF-55C3 55C6-55C8 55CA-55CB 55CE-55D0 55D5 55D7-55DB 55DE 55E0
       55E2 55E7 55E9 55ED-55EE 55F0-55F1 55F4 55F6 55F8-55FC 55FF 5602-5607 560A-560B 560D
       5610-5617 5619-561A 561C-561D 5620-5622 5625-5626 5628-562B 562E-5630 5633 5635 5637-5638
       563A 563C-563E 5640-564B 564F-5653 5655-5656 565A-565B 565D-5661 5663 5665-5667 566D-5670
       5672-5675 5677-567A 567D-5684 5687-568D 5690-5692 5694-56A2 56A4-56AE 56B0-56B6 56B8-56BB
       56BD-56C9 56CB-56D3 56D5-56D6 56D8-56D9 56DC 56E3 56E5-56EA 56EC 56EE-56EF 56F2-56F3
       56F6-56F8 56FB-56FC 5700-5702 5705 5707 570B-571B 571D-571E 5720-5722 5724-5727 572B
       5731-5732 5734-5738 573C-573D 573F 5741 5743-5746 5748-5749 574B 5752-5756 5758-5759
       5762-5763 5765 5767 576C 576E 5770-5772 5774-5775 5778-577A 577D-5781 5787-578A 578D-5791
       5794-579A 579C-579F 57A5 57A8 57AA 57AC 57AF-57B1 57B3 57B5-57B7 57B9-57C1 57C4-57CA
       57CC-57CD 57D0-57D1 57D3 57D6-57D7 57DB-57DC 57DE 57E1-57E3 57E5-57EC 57EE 57F0-57F3
       57F5-57F7 57FB-57FC 57FE-57FF 5801 5803-5805 5808-580A 580C 580E-5810 5812-5814 5816-5818
       581A-581D 581F 5822-5823 5825-5829 582B-582F 5831-5834 5836-5843 5845-584B 584E-5850
       5852-5853 5855-5857 5859-585D 585F-5864 5866-586A 586D-587D 587F 5882 5884 5886-5888
       588A-5891 5894-5898 589B-589D 58A0-58A7 58AA-58BB 58BD-58C0 58C2-58C4 58C6-58D0 58D2-58D4
       58D6-58E3 58E5-58EA 58ED 58EF 58F1-58F2 58F4-58F5 58F7-58F8 58FA-5901 5903 5905-5906
       5908-590C 590E 5910-5913 5917-5918 591B 591D-591E 5920-5923 5926 5928 592C 5930 5932-5933
       5935-5936 593B 593D-5940 5943 5945-5946 594A 594C-594D 5950 5952-5953 5959 595B-595F 5961
       5963-5964 5966-5972 5975 5977 597A-597C 597E-5980 5985 5989 598B-598C 598E-5991 5994-5995
       5998 599A-599D 599F-59A2 59A6-59A7 59AC-59AD 59B0-59B1 59B3-59B8 59BA 59BC-59BD 59BF-59C5
       59C7-59C9 59CC-59CF 59D5-59D6 59D9 59DB 59DE-59E2 59E4 59E6-59E7 59E9-59EB 59ED-59F8 59FA
       59FC-59FE 5A00 5A02 5A0A-5A0B 5A0D-5A10 5A12 5A14-5A17 5A19-5A1B 5A1D-5A1E 5A21-5A22 5A24
       5A26-5A28 5A2A-5A30 5A33 5A35 5A37-5A3B 5A3D-5A3F 5A41-5A45 5A47-5A48 5A4B-5A54 5A56-5A59
       5A5B-5A61 5A63-5A66 5A68-5A69 5A6B-5A73 5A78-5A79 5A7B-5A7E 5A80-5A91 5A93-5A99 5A9C-5AA9
       5AAB-5AB1 5AB4 5AB6-5AB7 5AB9-5ABD 5ABF-5AC0 5AC3-5AC8 5ACA-5ACB 5ACD-5AD1 5AD3 5AD5 5AD7
       5AD9-5ADB 5ADD-5ADF 5AE2 5AE4-5AE5 5AE7-5AE8 5AEA 5AEC-5AF0 5AF2-5B08 5B0A-5B15 5B18-5B31
       5B33 5B35-5B36 5B38-5B3F 5B41-5B4F 5B52 5B56 5B5E 5B60-5B61 5B67-5B68 5B6B 5B6D-5B6F 5B72
       5B74 5B76-5B79 5B7B-5B7C 5B7E-5B7F 5B82 5B86 5B8A 5B8D-5B8E 5B90-5B92 5B94 5B96 5B9F
       5BA7-5BA9 5BAC-5BAF 5BB1-5BB2 5BB7 5BBA-5BBC 5BC0-5BC1 5BC3 5BC8-5BCB 5BCD-5BCF 5BD1
       5BD4-5BDC 5BE0 5BE2-5BE3 5BE6-5BE7 5BE9-5BED 5BEF 5BF1-5BF7 5BFD-5BFE 5C00 5C02-5C03 5C05
       5C07-5C08 5C0B-5C0E 5C10 5C12-5C13 5C17 5C19 5C1B 5C1E-5C21 5C23 5C26 5C28-5C2B 5C2D-5C30
       5C32-5C33 5C35-5C37 5C43-5C44 5C46-5C47 5C4C-5C4D 5C52-5C54 5C56-5C58 5C5A-5C5D 5C5F 5C62
       5C64 5C67-5C6D 5C70 5C72-5C78 5C7B-5C7E 5C80 5C83-5C87 5C89-5C8B 5C8E-5C8F 5C92-5C93 5C95
       5C9D-5CA1 5CA4-5CA8 5CAA 5CAE-5CB0 5CB2 5CB4 5CB6 5CB9-5CBC 5CBE 5CC0 5CC2-5CC3 5CC5-5CCA
       5CCC-5CD1 5CD3-5CD8 5CDA-5CE0 5CE2-5CE3 5CE7 5CE9 5CEB-5CEC 5CEE-5CEF 5CF1-5CFA 5CFC-5D01
       5D04-5D05 5D08-5D0D 5D0F-5D13 5D15 5D17-5D1A 5D1C-5D1D 5D1F-5D23 5D25 5D28 5D2A-5D2C
       5D2F-5D33 5D35-5D3C 5D3F-5D46 5D48-5D49 5D4D-5D57 5D59-5D5A 5D5C 5D5E-5D68 5D6A 5D6D-5D6E
       5D70-5D73 5D75-5D81 5D83-5D98 5D9A-5D9C 5D9E-5DB6 5DB8-5DC4 5DC6-5DCC 5DCE-5DDA 5DDC
       5DDF-5DE0 5DE3-5DE4 5DEA 5DEC-5DED 5DF0 5DF5-5DF6 5DF8-5DFC 5DFF-5E00 5E04 5E07 5E09-5E0B
       5E0D-5E0E 5E12-5E13 5E17 5E1E-5E25 5E28-5E2C 5E2F-5E30 5E32-5E36 5E39-5E3A 5E3E-5E41 5E43
       5E46-5E4B 5E4D-5E53 5E56-5E5A 5E5C-5E5D 5E5F-5E60 5E63-5E71 5E75 5E77 5E79 5E7E 5E81-5E83
       5E85 5E88-5E89 5E8C-5E8E 5E92 5E98 5E9B 5E9D 5EA1-5EA4 5EA8-5EAC 5EAE-5EB2 5EB4 5EBA-5EBD
       5EBF-5EC8 5ECB-5ED0 5ED4-5ED5 5ED7-5EDA 5EDC-5EE7 5EE9 5EEB-5EF3 5EF5 5EF8-5EF9 5EFB-5EFD
       5F05-5F07 5F09 5F0C-5F0E 5F10 5F12 5F14 5F16 5F19-5F1A 5F1C-5F1E 5F21-5F24 5F28 5F2B-5F2C
       5F2E 5F30 5F32-5F38 5F3B 5F3D-5F3F 5F41-5F4F 5F51 5F54 5F59-5F5C 5F5E-5F60 5F63 5F65
       5F67-5F68 5F6B 5F6E-5F6F 5F72 5F74-5F76 5F78 5F7A 5F7D-5F7F 5F83 5F86 5F8D-5F8F 5F91
       5F93-5F94 5F96 5F9A-5F9B 5F9D-5FA0 5FA2-5FA7 5FA9 5FAB-5FAC 5FAF-5FB4 5FB6 5FB8-5FBB
       5FBE-5FC2 5FC7-5FC8 5FCA-5FCB 5FCE 5FD3-5FD5 5FDA-5FDC 5FDE-5FDF 5FE2-5FE3 5FE5-5FE6
       5FE8-5FE9 5FEC 5FEF-5FF0 5FF2-5FF4 5FF6-5FF7 5FF9-5FFA 5FFC 6007-6009 600B-600C 6010-6011
       6013 6017-6018 601A 601E-601F 6022-6024 602C-602E 6030-6034 6036-603A 603D-603E 6040
       6044-604A 604C 604E-604F 6051 6053-6054 6056-6058 605B-605C 605E-6061 6065-6066 606E
       6071-6072 6074-6075 6077 607E 6080-6082 6085-6088 608A-608B 608E-6091 6093 6095 6097-6099
       609C 609E 60A1-60A2 60A4-60A5 60A7 60A9-60AA 60AE 60B0 60B3 60B5-60B7 60B9-60BA 60BD-60C4
       60C7-60C9 60CC-60D0 60D2-60D4 60D6-60D7 60D9 60DB 60DE 60E1-60E5 60EA 60F1-60F2 60F5
       60F7-60F8 60FB-60FF 6102-6105 6107 610A-610C 6110-6114 6116-6119 611B-611E 6121-6122 6125
       6128-612A 612C-613E 6140-6147 6149 614B 614D 614F-6150 6152-6154 6156-615C 615E-6161
       6163-6166 6169-616F 6171-6174 6176 6178-618A 618C-618D 618F-6193 6195-619C 619E-61A6
       61AA-61AB 61AD-61B6 61B8-61BD 61BF-61C1 61C3-61C7 61C9 61CC-61D0 61D3 61D5-61E5 61E7-61F4
       61F6-61FE 6200-6205 6207 6209 6213-6214 6219 621C-621E 6220 6223 6226-6229 622B 622D
       622F-6232 6235-6236 6238-623C 6242 6244-6246 624A 624F-6250 6255-6257 6259-625A 625C-6262
       6264-6265 6268 6271-6272 6274-6275 6277-6278 627A-627B 627D 6281-6283 6285-6288 628B-6290
       6294 6299 629C-629E 62A3 62A6-62A7 62A9-62AA 62AD-62B0 62B2-62B4 62B6-62B8 62BA 62BE
       62C0-62C1 62C3 62CB 62CF 62D1 62D5 62DD-62DE 62E0-62E1 62E4 62EA-62EB 62F0 62F2 62F5
       62F8-62FB 6300 6303-6306 630A-630D 630F-6310 6312-6315 6317-6319 631C 6326-6327 6329
       632C-632E 6330-6331 6333-6338 633B-633C 633E-6341 6344 6347-6348 634A 6351-6354 6356-635D
       6360 6364-6366 6368 636A-636C 636F-6370 6372-6375 6378-6379 637C-637F 6381 6383-6386 638B
       638D 6391 6393-6395 6397 6399-639F 63A1 63A4 63A6 63AB 63AF 63B1-63B2 63B5-63B6 63B9 63BB
       63BD 63BF-63C3 63C5 63C7-63C8 63CA-63CC 63D1 63D3-63D5 63D7-63DD 63DF 63E2 63E4-63E8
       63EB-63EC 63EE-63F1 63F3 63F5 63F7 63F9-63FC 63FE 6403-6404 6406-640A 640D-640E 6411-6412
       6415-641A 641D 641F 6422-6425 6427-6429 642B 642E-6433 6435-6439 643B-643C 643E 6440
       6442-6443 6449 644B-6451 6453 6455-6457 6459-645D 645F-6466 6468 646A-646C 646E-6477
       647B-6481 6483 6486 6488-6490 6493-6494 6497-6498 649A-649D 649F-64A3 64A5-64A8 64AA-64AB
       64AF 64B1-64B4 64B6 64B9 64BB 64BD-64BF 64C1 64C3-64C4 64C6-64CC 64CF 64D1 64D3-64D6
       64D9-64DD 64DF-64E1 64E3 64E5 64E7-64FF 6501-6508 650A-6511 6513-6517 6519-6524 6526-652A
       652C-652D 6530-6533 6537 653A 653C-653D 6540-6544 6546-6547 654A-654B 654D-654E 6550
       6552-6554 6557-6558 655A 655C 655F-6561 6564-6565 6567-656A 656D-656F 6571 6573 6575-6576
       6578-6586 6588-658A 658D-658F 6592 6594-6596 6598 659A 659D-659E 65A0 65A2-65A3 65A6 65A8
       65AA 65AC 65AE 65B1-65B8 65BA-65BB 65BE-65C0 65C2 65C7-65CA 65CD 65D0-65D1 65D3-65D5
       65D8-65DF 65E1 65E3-65E4 65EA-65EB 65F2-65F5 65F8-65F9 65FB-65FF 6601 6604-6605 6607-6609
       660B 660D 6610-6612 6616-6618 661A-661C 661E 6621-6624 6626 6629-662C 662E 6630 6632-6633
       6637-663B 663D 663F-6640 6642 6644-664A 664D-664E 6650-6651 6658-6659 665B-665E 6660
       6662-6663 6665 6667 6669-666D 6671-6673 6675 6678-6679 667B-667D 667F-6681 6683 6685-6686
       6688-668B 668D-6690 6692-6695 6698-669C 669E-66A6 66A9-66AD 66AF-66B3 66B5-66B8 66BA-66BD
       66BF-66D8 66DA 66DE-66E5 66E7-66E8 66EA-66EF 66F1 66F5-66F6 66F8 66FA-66FB 66FD 6701-6707
       670C 670E-670F 6711-6713 6716 6718-671A 671C 671E 6720-6725 6727 6729 672E 6730 6732-6733
       6736-6739 673B-673C 673E-673F 6741 6744-6745 6747 674A-674B 674D 6752 6754-6755 6757-675B
       675D 6762-6764 6766-6767 676B-676C 676E 6771 6774 6776 6778-677B 677D 6780 6782-6783
       6785-6786 6788 678A 678C-678F 6791-6794 6796 6799 679B 679F-67A1 67A4 67A6 67A9 67AC 67AE
       67B1-67B2 67B4 67B9-67C0 67C2 67C5-67CE 67D5-67D7 67DB 67DF 67E1 67E3-67E4 67E6-67E8
       67EA-67EB 67ED-67EE 67F2 67F5-67FC 67FE 6801-6804 6806 680D 6810 6812 6814-6815 6818-681C
       681E-6820 6822-6828 682B-6831 6834-6836 683A-683B 683F 6847 684B 684D 684F 6852 6856-685F
       686A 686C-6873 6875 6878-6880 6882 6884 6887-688E 6890-6892 6894-6896 6898-68A1 68A3-68A5
       68A9-68AC 68AE 68B1-68B2 68B4 68B6-68BF 68C1 68C3-68C8 68CA 68CC 68CE-68D1 68D3-68D4
       68D6-68D7 68D9 68DB-68DF 68E1-68E2 68E4-68ED 68EF 68F2-68F4 68F6-68F8 68FB 68FD-6900
       6902-6904 6906-690A 690C 690F 6911 6913-691E 6921-6923 6925-692C 692E-692F 6931-6933
       6935-6938 693A-693C 693E 6940-6941 6943-6953 6955-6956 6958-6959 695B-695C 695F 6961-6962
       6964-6965 6967-696A 696C-696D 696F-6970 6972-6976 697A-697B 697D-697F 6981 6983 6985
       698A-698C 698E-6993 6996-6997 6999-699A 699D-69A6 69A9-69AA 69AC 69AE-69B0 69B2-69B3
       69B5-69B6 69B8-69BA 69BC-69C0 69C2-69C9 69CB 69CD 69CF 69D1-69D3 69D5-69DA 69DC-69DE
       69E1-69EC 69EE-69F1 69F3-69FC 69FE 6A00-6A09 6A0B-6A16 6A19-6A1E 6A20 6A22-6A27 6A29
       6A2B-6A2E 6A30 6A32-6A34 6A36-6A3C 6A3F-6A43 6A45-6A46 6A48-6A4F 6A51-6A57 6A5A 6A5C-6A60
       6A62-6A64 6A66-6A70 6A72-6A78 6A7A-6A7B 6A7D-6A7F 6A81-6A83 6A85-6A8D 6A8F 6A92-6A96
       6A98-6A9F 6AA1-6AA8 6AAA 6AAD-6B1F 6B25-6B26 6B28-6B31 6B33-6B36 6B38 6B3B-6B3D 6B3F-6B42
       6B44-6B45 6B48 6B4A-6B4B 6B4D-6B58 6B5A-6B61 6B68-6B69 6B6B-6B78 6B7A 6B7D-6B80 6B85 6B88
       6B8C 6B8E-6B91 6B94-6B95 6B97-6B99 6B9C-6BA0 6BA2-6BA9 6BAB-6BB2 6BB6 6BB8-6BBE 6BC0
       6BC3-6BC4 6BC6-6BCA 6BCC 6BCE 6BD0-6BD1 6BD8 6BDA 6BDC-6BE0 6BE2-6BE9 6BEC-6BEE 6BF0-6BF2
       6BF4 6BF6-6BF8 6BFA-6BFC 6BFE-6C04 6C08-6C0C 6C0E 6C12 6C17 6C1C-6C1E 6C20 6C23 6C25
       6C2B-6C2D 6C31 6C33 6C36-6C37 6C39-6C3C 6C3E-6C3F 6C43-6C45 6C48 6C4B-6C4F 6C51-6C53 6C56
       6C58-6C5A 6C62-6C63 6C65-6C67 6C6B-6C6F 6C71 6C73 6C75 6C77-6C78 6C7A-6C7C 6C7F-6C80 6C84
       6C87 6C8A-6C8B 6C8D-6C8E 6C91-6C92 6C95-6C98 6C9A 6C9C-6C9E 6CA0 6CA2 6CA8 6CAC 6CAF-6CB0
       6CB4-6CB7 6CBA 6CC0-6CC3 6CC6-6CC8 6CCB 6CCD-6CCF 6CD1-6CD2 6CD8-6CDA 6CDC-6CDD 6CDF 6CE4
       6CE6-6CE7 6CE9 6CEC-6CED 6CF2 6CF4 6CF9 6CFF-6D00 6D02-6D03 6D05-6D06 6D08-6D0A 6D0D
       6D0F-6D11 6D13-6D16 6D18 6D1C-6D1D 6D1F-6D24 6D26 6D28-6D29 6D2C-6D2D 6D2F-6D30 6D34
       6D36-6D38 6D3A 6D3F-6D40 6D42 6D44 6D49 6D4C 6D50 6D55-6D58 6D5B 6D5D 6D5F 6D61-6D62
       6D64-6D65 6D67-6D68 6D6B-6D6D 6D70-6D73 6D75-6D76 6D79-6D7B 6D7D-6D81 6D83-6D84 6D86-6D87
       6D8A-6D8B 6D8D 6D8F-6D90 6D92 6D96-6D9A 6D9C 6DA2 6DA5 6DAC-6DAD 6DB0-6DB1 6DB3-6DB4
       6DB6-6DB7 6DB9-6DBE 6DC1-6DC3 6DC8-6DCA 6DCD-6DD0 6DD2-6DD5 6DD7 6DDA-6DDC 6DDF 6DE2-6DE3
       6DE5 6DE7-6DEA 6DED 6DEF-6DF0 6DF2 6DF4-6DF6 6DF8 6DFA 6DFD-6E04 6E06-6E09 6E0B 6E0F
       6E12-6E13 6E15 6E18-6E19 6E1B-6E1C 6E1E-6E1F 6E22 6E26-6E28 6E2A 6E2C 6E2E 6E30-6E31 6E33
       6E35-6E37 6E39 6E3B-6E42 6E45-6E4C 6E4F-6E52 6E55 6E57 6E59-6E5A 6E5C-6E5E 6E60-6E6A
       6E6C-6E6D 6E6F-6E7D 6E80-6E82 6E84 6E87-6E88 6E8A-6E8E 6E91-6E97 6E99-6E9B 6E9D-6E9E
       6EA0-6EA1 6EA3-6EA4 6EA6 6EA8-6EA9 6EAB-6EAE 6EB0 6EB3 6EB5 6EB8-6EB9 6EBC 6EBE-6EC0
       6EC3-6EC6 6EC8-6ECA 6ECC-6ECE 6ED0 6ED2 6ED6 6ED8-6ED9 6EDB-6EDD 6EE3 6EE7 6EEA-6EF3
       6EF5-6EF8 6EFA-6F01 6F03-6F05 6F07-6F08 6F0A-6F0E 6F10-6F12 6F16-6F1F 6F21-6F23 6F25-6F28
       6F2C 6F2E 6F30 6F32 6F34-6F35 6F37-6F3D 6F3F-6F45 6F48-6F4A 6F4C 6F4E-6F57 6F59-6F5B 6F5D
       6F5F-6F61 6F63-6F65 6F67-6F6C 6F6F-6F71 6F73 6F75-6F77 6F79 6F7B 6F7D-6F83 6F85-6F87
       6F8A-6F8B 6F8F-6F9B 6F9D-6FA0 6FA2-6FA6 6FA8-6FB2 6FB4-6FB5 6FB7-6FB8 6FBA-6FBF 6FC1
       6FC3-6FC8 6FCA-6FD0 6FD3-6FDD 6FDF 6FE2-6FED 6FF0-7010 7012-7019 701C-7022 7024-7034
       7036-7038 703A-704B 704D-704E 7050-705D 705F-706A 706E 7071-7074 7077 7079-707B 707D
       7081-7084 7086-7088 708B-708D 708F-7091 7093 7097-7098 709A-709B 709E-70AA 70B0 70B2
       70B4-70B6 70BA 70BE-70BF 70C4-70C7 70C9 70CB-70D7 70DA 70DC-70DE 70E0-70E3 70E5 70EA 70EE
       70F0-70F6 70F8 70FA-70FC 70FE-7108 710B-710F 7111-7112 7114 7117 711B-7125 7127-712E
       7132-7135 7137-7144 7146-7149 714B 714D 714F-715B 715D 715F-7163 7165 7169-716D 716F-7171
       7174-7177 7179 717B-717C 717E-7183 7185-7189 718B-718E 7190-7193 7195-7197 719A-719E
       71A1-71A7 71A9-71AB 71AD-71B2 71B4 71B6-71B8 71BA-71C2 71C4-71CD 71CF-71D3 71D6-71DF
       71E1-71E4 71E6 71E8-71ED 71EF-71F8 71FA-7205 7207-721C 721E-7227 7229 722B 722D-722F
       7232-7234 723A 723C 723E 7240-7246 7249-724B 724E-7251 7253-7255 7257-7258 725A 725C 725E
       7260 7263-7265 7268 726A-726D 7270-7271 7273-7274 7276-7278 727B-727D 7282-7283 7285-7289
       728C 728E 7290-7291 7293-729E 72A0-72AB 72AE 72B1-72B3 72B5 72BA-72C0 72C5-72C7 72C9-72CC
       72CF 72D1 72D3-72D6 72D8 72DA-72DB E4C6-E525 3000-3002 B7 2C9 2C7 A8 3003 3005 2014 FF5E
       2016 2026 2018-2019 201C-201D 3014-3015 3008-300F 3016-3017 3010-3011 B1 D7 F7 2236
       2227-2228 2211 220F 222A 2229 2208 2237 221A 22A5 2225 2220 2312 2299 222B 222E 2261 224C
       2248 223D 221D 2260 226E-226F 2264-2265 221E 2235 2234 2642 2640 B0 2032-2033 2103 FF04 A4
       FFE0-FFE1 2030 A7 2116 2606 2605 25CB 25CF 25CE 25C7 25C6 25A1 25A0 25B3 25B2 203B 2192
       2190-2191 2193 3013 E526-E585 2170-2179 E766-E76B 2488-249B 2474-2487 2460-2469 20AC E76D
       3220-3229 E76E-E76F 2160-216B E770-E771 E586-E5E4 3000 FF01-FF03 FFE5 FF05-FF5D FFE3
       E5E6-E645 3041-3093 E772-E77C E646-E6A5 30A1-30F6 E77D-E784 E6A6-E705 391-3A1 3A3-3A9
       E785-E78C 3B1-3C1 3C3-3C9 FE10 FE12 FE11 FE13-FE16 FE35-FE36 FE39-FE3A FE3F-FE40 FE3D-FE3E
       FE41-FE44 FE17-FE18 FE3B-FE3C FE37-FE38 FE31 FE19 FE33-FE34 E797-E79F E706-E765 410-415
       401 416-42F E7A0-E7AE 430-435 451 436-44F E7AF-E7BB 2CA-2CB 2D9 2013 2015 2025 2035 2105
       2109 2196-2199 2215 221F 2223 2252 2266-2267 22BF 2550-2573 2581-258F 2593-2595 25BC-25BD
       25E2-25E5 2609 2295 3012 301D-301E E7BC-E7C6 101 E1 1CE E0 113 E9 11B E8 12B ED 1D0 EC 14D
       F3 1D2 F2 16B FA 1D4 F9 1D6 1D8 1DA 1DC FC EA 251 1E3F 144 148 1F9 261 E7C9-E7CC 3105-3129
       E7CD-E7E1 3021-3029 32A3 338E-338F 339C-339E 33A1 33C4 33CE 33D1-33D2 33D5 FE30 FFE2 FFE4
       E7E2 2121 3231 E7E3 2010 E7E4-E7E6 30FC 309B-309C 30FD-30FE 3006 309D-309E FE49-FE52
       FE54-FE57 FE59-FE66 FE68-FE6B 303E 2FF0-2FFB 3007 E7F4-E800 2500-254B E801-E80F 72DC-72DD
       72DF 72E2-72E7 72EA-72EB 72F5-72F6 72F9 72FD-7300 7302 7304-7309 730B-730D 730F-7312 7314
       7318-731A 731F-7320 7323-7324 7326-7328 732D 732F-7330 7332-7333 7335-7336 733A-733D
       7340-734C 734E-734F 7351 7353-7356 7358-735F 7361-736B 736E 7370-7371 E000-E05D 7372-737D
       737F-7383 7385-7386 7388 738A 738C-738D 738F-7390 7392-7395 7397-739A 739C-739E 73A0-73A1
       73A3-73A8 73AA 73AC-73AD 73B1 73B4-73B6 73B8-73B9 73BC-73BF 73C1 73C3-73C7 73CB-73CC 73CE
       73D2-73D8 73DA-73DD 73DF 73E1-73E4 73E6 73E8 73EA-73EC 73EE-73F1 73F3-73F7 E05E-E0BB
       73F8-7402 7404 7407-7408 740B-740E 7411-7419 741C-7421 7423-7424 7427 7429 742B 742D 742F
       7431-7432 7437-743B 743D-7440 7442-7454 7456 7458 745D 7460-746C 746E-746F 7471-7475
       7478-747A E0BC-E119 747B-747D 747F 7482 7484-7486 7488-748A 748C-748D 748F 7491-749B 749D
       749F-74A6 74AA-74B9 74BB-74D1 74D3-74DB 74DD 74DF 74E1 74E5 74E7-74ED 74F0-74F2 E11A-E177
       74F3 74F5 74F8-74FE 7500-7503 7505-750C 750E 7510 7512 7514-7517 751B 751D-751E 7520-7524
       7526-7527 752A 752E 7534 7536 7539 753C-753D 753F 7541-7544 7546-7547 7549-754A 754D
       7550-7553 7555-7558 755D-7564 7567-7569 756B-7571 7573 7575-7577 757A-757E 7580-7582
       7584-7585 7587 E178-E1D5 7588-758A 758C-758E 7590 7593 7595 7598 759B-759C 759E 75A2
       75A6-75AA 75AD 75B6-75B7 75BA-75BB 75BF-75C1 75C6 75CB-75CC 75CE-75D1 75D3 75D7 75D9-75DA
       75DC-75DD 75DF-75E1 75E5 75E9 75EC-75EF 75F2-75F3 75F5-75F8 75FA-75FB 75FD-75FE 7602 7604
       7606-7609 760B 760D-760F 7611-7614 7616 761A 761C-761E 7621 7623 7627-7628 762C 762E-762F
       7631-7632 7636-7637 7639-763B 763D 7641-7642 7644 E1D6-E233 7645-764B 764E-7653 7655
       7657-765B 765D 765F-7662 7664-766A 766C-766E 7670-7677 7679-767A 767C 767F-7681 7683 7685
       7689-768A 768C-768D 768F-7690 7692 7694-7695 7697-7698 769A-76A3 76A5-76AD 76AF-76B0 76B3
       76B5-76BE 76C0-76C1 76C3 554A 963F 57C3 6328 54CE 5509 54C0 7691 764C 853C 77EE 827E 788D
       7231 9698 978D 6C28 5B89 4FFA 6309 6697 5CB8 80FA 6848 80AE 6602 76CE 51F9 6556 71AC 7FF1
       8884 50B2 5965 61CA 6FB3 82AD 634C 6252 53ED 5427 7B06 516B 75A4 5DF4 62D4 8DCB 9776 628A
       8019 575D 9738 7F62 7238 767D 67CF 767E 6446 4F70 8D25 62DC 7A17 6591 73ED 642C 6273 822C
       9881 677F 7248 626E 62CC 4F34 74E3 534A 529E 7ECA 90A6 5E2E 6886 699C 8180 7ED1 68D2 78C5
       868C 9551 508D 8C24 82DE 80DE 5305 8912 5265 76C4 76C7 76C9 76CB-76CC 76D3 76D5 76D9-76DA
       76DC-76DE 76E0-76E4 76E6-76ED 76F0 76F3 76F5-76F7 76FA-76FB 76FD 76FF-7700 7702-7703
       7705-7706 770A 770C 770E-7718 771B-771E 7721 7723-7725 7727 772A-772C 772E 7730-7734 7739
       773B 773D-773F 7742 7744-7746 7748-774F 7752-7759 775C 8584 96F9 4FDD 5821 9971 5B9D 62B1
       62A5 66B4 8C79 9C8D 7206 676F 7891 60B2 5351 5317 8F88 80CC 8D1D 94A1 500D 72C8 5907 60EB
       7119 88AB 5954 82EF 672C 7B28 5D29 7EF7 752D 6CF5 8E66 8FF8 903C 9F3B 6BD4 9119 7B14 5F7C
       78A7 84D6 853D 6BD5 6BD9 6BD6 5E01 5E87 75F9 95ED 655D 5F0A 5FC5 8F9F 58C1 81C2 907F 965B
       97AD 8FB9 7F16 8D2C 6241 4FBF 53D8 535E 8FA8-8FA9 8FAB 904D 6807 5F6A 8198 8868 9CD6 618B
       522B 762A 5F6C 658C 6FD2 6EE8 5BBE 6448 5175 51B0 67C4 4E19 79C9 997C 70B3 775D-7760 7764
       7767 7769-776A 776D-7778 777A-777C 7781-7783 7786-778B 778F-7790 7793-779E 77A1 77A3-77A4
       77A6 77A8 77AB 77AD-77AF 77B1-77B2 77B4 77B6-77BA 77BC 77BE 77C0-77CC 77CE-77D6 77D8-77DA
       77DD-77E1 77E4 75C5 5E76 73BB 83E0 64AD 62E8 94B5 6CE2 535A 52C3 640F 94C2 7B94 4F2F 5E1B
       8236 8116 818A 6E24 6CCA 9A73 6355 535C 54FA 8865 57E0 4E0D 5E03 6B65 7C3F 90E8 6016 64E6
       731C 88C1 6750 624D 8D22 776C 8E29 91C7 5F69 83DC 8521 9910 53C2 8695 6B8B 60ED 60E8 707F
       82CD 8231 4ED3 6CA7 85CF 64CD 7CD9 69FD 66F9 8349 5395 7B56 4FA7 518C 6D4B 5C42 8E6D 63D2
       53C9 832C 8336 67E5 78B4 643D 5BDF 5C94 5DEE 8BE7 62C6 67F4 8C7A 6400 63BA 8749 998B 8C17
       7F20 94F2 4EA7 9610 98A4 660C 7316 77E6 77E8 77EA 77EF-77F2 77F4-77F5 77F7 77F9-77FC
       7803-7808 780A-780B 780E-7810 7813 7815 7819 781B 781E 7820-7822 7824 7828 782A-782B
       782E-782F 7831-7833 7835-7836 783D 783F 7841-7844 7846 7848-784B 784D 784F 7851 7853-7854
       7858-785C 785E-7869 786F-7876 7878-787B 787D-7883 573A 5C1D 5E38 957F 507F 80A0 5382 655E
       7545 5531 5021 8D85 6284 949E 671D 5632 6F6E 5DE2 5435 7092 8F66 626F 64A4 63A3 5F7B 6F88
       90F4 81E3 8FB0 5C18 6668 5FF1 6C89 9648 8D81 886C 6491 79F0 57CE 6A59 6210 5448 4E58 7A0B
       60E9 6F84 8BDA 627F 901E 9A8B 79E4 5403 75F4 6301 5319 6C60 8FDF 5F1B 9A70 803B 9F7F 4F88
       5C3A 8D64 7FC5 65A5 70BD 5145 51B2 866B 5D07 5BA0 62BD 916C 7574 8E0C 7A20 6101 7B79 4EC7
       7EF8 7785 4E11 81ED 521D 51FA 6A71 53A8 8E87 9504 96CF 6EC1 9664 695A 7884-7886 7888
       788A-788B 788F-7890 7892 7894-7896 7899 789D-789E 78A0 78A2 78A4 78A6 78A8-78AF 78B5-78B8
       78BA-78BD 78BF-78C0 78C2-78C4 78C6-78C8 78CC-78CF 78D1-78D3 78D6-78D8 78DA-78E7 78E9-78EB
       78ED-78F1 78F3 78F5-78F6 78F8-78F9 78FB-7900 7902-7904 7906-790C 7840 50A8 77D7 6410 89E6
       5904 63E3 5DDD 7A7F 693D 4F20 8239 5598 4E32 75AE 7A97 5E62 5E8A 95EF 521B 5439 708A 6376
       9524 5782 6625 693F 9187 5507 6DF3 7EAF 8822 6233 7EF0 75B5 8328 78C1 96CC 8F9E 6148 74F7
       8BCD 6B64 523A 8D50 6B21 806A 8471 56F1 5306 4ECE 4E1B 51D1 7C97 918B 7C07 4FC3 8E7F 7BE1
       7A9C 6467 5D14 50AC 8106 7601 7CB9 6DEC 7FE0 6751 5B58 5BF8 78CB 64AE 6413 63AA 632B 9519
       642D 8FBE 7B54 7629 6253 5927 5446 6B79 50A3 6234 5E26 6B86 4EE3 8D37 888B 5F85 902E
       790D-7912 7914-791D 791F-7923 7925-7933 7935-7939 793D 793F 7942-7945 7947 794A-7952
       7954-7955 7958-7959 7961 7963-7964 7966 7969-796C 796E 7970-7976 7979 797B-797F 7982-7983
       7986-7989 798B-798E 7990-7992 6020 803D 62C5 4E39 5355 90F8 63B8 80C6 65E6 6C2E 4F46 60EE
       6DE1 8BDE 5F39 86CB 5F53 6321 515A 8361 6863 5200 6363 8E48 5012 5C9B 7977 5BFC 5230 7A3B
       60BC 9053 76D7 5FB7 5F97 7684 8E6C 706F 767B 7B49 77AA 51F3 9093 5824 4F4E 6EF4 8FEA 654C
       7B1B 72C4 6DA4 7FDF 5AE1 62B5 5E95 5730 8482 7B2C 5E1D 5F1F 9012 7F14 98A0 6382 6EC7 7898
       70B9 5178 975B 57AB 7535 4F43 7538 5E97 60E6 5960 6DC0 6BBF 7889 53FC 96D5 51CB 5201 6389
       540A 9493 8C03 8DCC 7239 789F 8776 8FED 8C0D 53E0 7993-7999 799B-79A6 79A8-79B2 79B4-79B8
       79BC 79BF 79C2 79C4-79C5 79C7-79C8 79CA 79CC 79CE-79D0 79D3-79D4 79D6-79D7 79D9-79DE
       79E0-79E2 79E5 79E8 79EA 79EC 79EE 79F1-79F7 79F9-79FA 79FC 79FE-79FF 7A01 7A04-7A05
       7A07-7A0A 7A0C 7A0F-7A13 7A15-7A16 7A18-7A19 7A1B-7A1C 4E01 76EF 53EE 9489 9876 9F0E 952D
       5B9A 8BA2 4E22 4E1C 51AC 8463 61C2 52A8 680B 4F97 606B 51BB 6D1E 515C 6296 6597 9661 8C46
       9017 75D8 90FD 7763 6BD2 728A 72EC 8BFB 5835 7779 8D4C 675C 9540 809A 5EA6 6E21 5992 7AEF
       77ED 953B 6BB5 65AD 7F0E 5806 5151 961F 5BF9 58A9 5428 8E72 6566 987F 56E4 949D 76FE 9041
       6387 54C6 591A 593A 579B 8EB2 6735 8DFA 8235 5241 60F0 5815 86FE 5CE8 9E45 4FC4 989D 8BB9
       5A25 6076 5384 627C 904F 9102 997F 6069 800C 513F 8033 5C14 9975 6D31 4E8C 7A1D 7A1F
       7A21-7A22 7A24-7A32 7A34-7A36 7A38 7A3A 7A3E 7A40-7A45 7A47-7A50 7A52-7A56 7A58-7A6F
       7A71-7A73 7A75 7A7B-7A7E 7A82 7A85 7A87 7A89-7A8C 7A8E-7A90 7A93-7A94 7A99-7A9B 7A9E
       7AA1-7AA2 8D30 53D1 7F5A 7B4F 4F10 4E4F 9600 6CD5 73D0 85E9 5E06 756A 7FFB 6A0A 77FE 9492
       7E41 51E1 70E6 53CD 8FD4 8303 8D29 72AF 996D 6CDB 574A 82B3 65B9 80AA 623F 9632 59A8 4EFF
       8BBF 7EBA 653E 83F2 975E 5561 98DE 80A5 532A 8BFD 5420 80BA 5E9F 6CB8 8D39 82AC 915A 5429
       6C1B 5206 7EB7 575F 711A 6C7E 7C89 594B 4EFD 5FFF 6124 7CAA 4E30 5C01 67AB 8702 5CF0 950B
       98CE 75AF 70FD 9022 51AF 7F1D 8BBD 5949 51E4 4F5B 5426 592B 6577 80A4 5B75 6276 62C2 8F90
       5E45 6C1F 7B26 4F0F 4FD8 670D 7AA3-7AA4 7AA7 7AA9-7AAB 7AAE-7AB2 7AB4-7ABE 7AC0-7ACA
       7ACC-7AD5 7AD7-7AD8 7ADA-7ADD 7AE1-7AE2 7AE4 7AE7-7AEC 7AEE 7AF0-7AF8 7AFB-7AFC 7AFE
       7B00-7B02 7B05 7B07 7B09 7B0C-7B0E 7B10 7B12-7B13 7B16-7B18 7B1A 7B1C-7B1D 7B1F 7B21-7B23
       7B27 7B29 7B2D 6D6E 6DAA 798F 88B1 5F17 752B 629A 8F85 4FEF 91DC 65A7 812F 8151 5E9C 8150
       8D74 526F 8986 8D4B 590D 5085 4ED8 961C 7236 8179 8D1F 5BCC 8BA3 9644 5987 7F1A 5490 5676
       560E 8BE5 6539 6982 9499 76D6 6E89 5E72 7518 6746 67D1 7AFF 809D 8D76 611F 79C6 6562 8D63
       5188 521A 94A2 7F38 809B 7EB2 5C97 6E2F 6760 7BD9 768B 9AD8 818F 7F94 7CD5 641E 9550 7A3F
       544A 54E5 6B4C 6401 6208 9E3D 80F3 7599 5272 9769 845B 683C 86E4 9601 9694 94EC 4E2A 5404
       7ED9 6839 8DDF 8015 66F4 5E9A 7FB9 7B2F-7B30 7B32 7B34-7B37 7B39 7B3B 7B3D 7B3F-7B44 7B46
       7B48 7B4A 7B4D-7B4E 7B53 7B55 7B57 7B59 7B5C 7B5E-7B5F 7B61 7B63-7B6D 7B6F-7B70 7B73-7B74
       7B76 7B78 7B7A 7B7C-7B7D 7B7F 7B81-7B84 7B86-7B8C 7B8E-7B8F 7B91-7B93 7B96 7B98-7B9B
       7B9E-7BA0 7BA3-7BA5 7BAE-7BB0 7BB2-7BB3 7BB5-7BB7 7BB9-7BC0 7BC2-7BC4 57C2 803F 6897 5DE5
       653B 529F 606D 9F9A 4F9B 8EAC 516C 5BAB 5F13 5DE9 6C5E 62F1 8D21 5171 94A9 52FE 6C9F 82DF
       72D7 57A2 6784 8D2D 591F 8F9C 83C7 5495 7B8D 4F30 6CBD 5B64 59D1 9F13 53E4 86CA 9AA8 8C37
       80A1 6545 987E 56FA 96C7 522E 74DC 5250 5BE1 6302 8902 4E56 62D0 602A 68FA 5173 5B98 51A0
       89C2 7BA1 9986 7F50 60EF 704C 8D2F 5149 5E7F 901B 7470 89C4 572D 7845 5F52 9F9F 95FA 8F68
       9B3C 8BE1 7678 6842 67DC 8DEA 8D35 523D 8F8A 6EDA 68CD 9505 90ED 56FD 679C 88F9 8FC7 54C8
       7BC5 7BC8-7BCB 7BCD-7BD0 7BD2 7BD4-7BD8 7BDB-7BDC 7BDE-7BE0 7BE2-7BE4 7BE7-7BE9 7BEB-7BED
       7BEF-7BF0 7BF2-7BF6 7BF8-7BFB 7BFD 7BFF-7C06 7C08-7C0A 7C0D-7C0E 7C10-7C15 7C17-7C1E
       7C20-7C25 7C28-7C29 7C2B-7C37 7C39-7C3E 7C42 9AB8 5B69 6D77 6C26 4EA5 5BB3 9A87 9163 61A8
       90AF 97E9 542B 6DB5 5BD2 51FD 558A 7F55 7FF0 64BC 634D 65F1 61BE 608D 710A 6C57 6C49 592F
       676D 822A 58D5 568E 8C6A 6BEB 90DD 597D 8017 53F7 6D69 5475 559D 8377 83CF 6838 79BE 548C
       4F55 5408 76D2 8C89 9602 6CB3 6DB8 8D6B 8910 9E64 8D3A 563F 9ED1 75D5 5F88 72E0 6068 54FC
       4EA8 6A2A 8861 6052 8F70 54C4 70D8 8679 9E3F 6D2A 5B8F 5F18 7EA2 5589 4FAF 7334 543C 539A
       5019 540E 547C 4E4E 5FFD 745A 58F6 846B 80E1 8774 72D0 7CCA 6E56 7C43-7C4C 7C4E-7C72
       7C75-7C7A 7C7E-7C88 7C8A-7C90 7C93-7C94 7C96 7C99-7C9B 7CA0-7CA1 7CA3 7CA6-7CA9 7CAB-7CAD
       7CAF-7CB0 7CB4-7CB8 7CBA-7CBB 5F27 864E 552C 62A4 4E92 6CAA 6237 82B1 54D7 534E 733E 6ED1
       753B 5212 5316 8BDD 69D0 5F8A 6000 6DEE 574F 6B22 73AF 6853 8FD8 7F13 6362 60A3 5524 75EA
       8C62 7115 6DA3 5BA6 5E7B 8352 614C 9EC4 78FA 8757 7C27 7687 51F0 60F6 714C 6643 5E4C 604D
       8C0E 7070 6325 8F89 5FBD 6062 86D4 56DE 6BC1 6094 6167 5349 60E0 6666 8D3F 79FD 4F1A 70E9
       6C47 8BB3 8BF2 7ED8 8364 660F 5A5A 9B42 6D51 6DF7 8C41 6D3B 4F19 706B 83B7 6216 60D1 970D
       8D27 7978 51FB 573E 57FA 673A 7578 7A3D 79EF 7B95 7CBF-7CC0 7CC2-7CC4 7CC6 7CC9 7CCB
       7CCE-7CD4 7CD8 7CDA-7CDB 7CDD-7CDE 7CE1-7CE7 7CE9-7CEE 7CF0-7CF7 7CF9-7CFA 7CFC-7D09
       7D0B-7D1F 7D21 7D23-7D26 7D28-7D2A 7D2C-7D2E 7D30-7D36 808C 9965 8FF9 6FC0 8BA5 9E21 59EC
       7EE9 7F09 5409 6781 68D8 8F91 7C4D 96C6 53CA 6025 75BE 6C72 5373 5AC9 7EA7 6324 51E0 810A
       5DF1 84DF 6280 5180 5B63 4F0E 796D 5242 60B8 6D4E 5BC4 5BC2 8BA1 8BB0 65E2 5FCC 9645 5993
       7EE7 7EAA 5609 67B7 5939 4F73 5BB6 52A0 835A 988A 8D3E 7532 94BE 5047 7A3C 4EF7 67B6 9A7E
       5AC1 6B7C 76D1 575A 5C16 7B3A 95F4 714E 517C 80A9 8270 5978 7F04 8327 68C0 67EC 78B1 7877
       62E3 6361 7B80 4FED 526A 51CF 8350 69DB 9274 8DF5 8D31 89C1 952E 7BAD 4EF6 7D37-7D6D
       7D6F-7D76 7D78-7D98 5065 8230 5251 996F 6E10 6E85 6DA7 5EFA 50F5 59DC 5C06 6D46 6C5F 7586
       848B 6868 5956 8BB2 5320 9171 964D 8549 6912 7901 7126 80F6 4EA4 90CA 6D47 9A84 5A07 56BC
       6405 94F0 77EB 4FA5 811A 72E1 89D2 997A 7F34 7EDE 527F 6559 9175 8F7F 8F83 53EB 7A96 63ED
       63A5 7686 79F8 8857 9636 622A 52AB 8282 6854 6770 6377 776B 7AED 6D01 7ED3 89E3 59D0 6212
       85C9 82A5 754C 501F 4ECB 75A5 8BEB 5C4A 5DFE 7B4B 65A4 91D1 4ECA 6D25 895F 7D27 9526 4EC5
       8C28 8FDB 9773 664B 7981 8FD1 70EC 6D78 7D99-7DA5 7DA7-7DAD 7DAF-7DFA 5C3D 52B2 8346 5162
       830E 775B 6676 9CB8 4EAC 60CA 7CBE 7CB3 7ECF 4E95 8B66 666F 9888 9759 5883 656C 955C 5F84
       75C9 9756 7ADF 7ADE 51C0 70AF 7A98 63EA 7A76 7EA0 7396 97ED 4E45 7078 4E5D 9152 53A9 6551
       65E7 81FC 8205 548E 5C31 759A 97A0 62D8 72D9 75BD 5C45 9A79 83CA 5C40 5480 77E9 4E3E 6CAE
       805A 62D2 636E 5DE8 5177 8DDD 8E1E 952F 4FF1 53E5 60E7 70AC 5267 6350 9E43 5A1F 5026 7737
       5377 7EE2 6485 652B 6289 6398 5014 7235 89C9 51B3 8BC0 7EDD 5747 83CC 94A7 519B 541B 5CFB
       7DFB-7E3A 7E3C-7E40 7E42-7E46 7E48-7E5D 4FCA 7AE3 6D5A 90E1 9A8F 5580 5496 5361 54AF 5F00
       63E9 6977 51EF 6168 520A 582A 52D8 574E 780D 770B 5EB7 6177 7CE0 625B 6297 4EA2 7095 8003
       62F7 70E4 9760 5777 82DB 67EF 68F5 78D5 9897 79D1 58F3 54B3 53EF 6E34 514B 523B 5BA2 8BFE
       80AF 5543 57A6 6073 5751 542D 7A7A 6050 5B54 63A7 62A0 53E3 6263 5BC7 67AF 54ED 7A9F 82E6
       9177 5E93 88E4 5938 57AE 630E 8DE8 80EF 5757 7B77 4FA9 5FEB 5BBD 6B3E 5321 7B50 72C2 6846
       77FF 7736 65F7 51B5 4E8F 76D4 5CBF 7AA5 8475 594E 9B41 5080 7E5E-7E81 7E83-7E9A 7E9C-7E9E
       7EAE 7EB4 7EBB-7EBC 7ED6 7EE4 7EEC 7EF9 7F0A 7F10 7F1E 7F37 7F39 7F3B-7F41 7F43 7F46-7F4F
       7F52-7F53 9988 6127 6E83 5764 6606 6346 56F0 62EC 6269 5ED3 9614 5783 62C9 5587 8721 814A
       8FA3 5566 83B1 6765 8D56 84DD 5A6A 680F 62E6 7BEE 9611 5170 6F9C 8C30 63FD 89C8 61D2 7F06
       70C2 6EE5 7405 6994 72FC 5ECA 90CE 6717 6D6A 635E 52B3 7262 8001 4F6C 59E5 916A 70D9 6D9D
       52D2 4E50 96F7 956D 857E 78CA 7D2F 5121 5792 64C2 808B 7C7B 6CEA 68F1 695E 51B7 5398 68A8
       7281 9ECE 7BF1 72F8 79BB 6F13 7406 674E 91CC 9CA4 793C 8389 8354 540F 6817 4E3D 5389 52B1
       783E 5386 5229 5088 4F8B 4FD0 7F56 7F59 7F5B-7F5E 7F60 7F63-7F67 7F6B-7F6D 7F6F-7F70 7F73
       7F75-7F78 7F7A-7F7D 7F7F-7F80 7F82-7F89 7F8B 7F8D 7F8F-7F93 7F95-7F99 7F9B-7F9C 7FA0
       7FA2-7FA3 7FA5-7FA6 7FA8-7FAE 7FB1 7FB3-7FB7 7FBA-7FBB 7FBE 7FC0 7FC2-7FC4 7FC6-7FC9 7FCB
       7FCD 7FCF-7FD3 7FD6-7FD7 7FD9-7FDE 7FE2-7FE3 75E2 7ACB 7C92 6CA5 96B6 529B 7483 54E9 4FE9
       8054 83B2 8FDE 9570 5EC9 601C 6D9F 5E18 655B 8138 94FE 604B 70BC 7EC3 7CAE 51C9 6881 7CB1
       826F 4E24 8F86 91CF 667E 4EAE 8C05 64A9 804A 50DA 7597 71CE 5BE5 8FBD 6F66 4E86 6482 9563
       5ED6 6599 5217 88C2 70C8 52A3 730E 7433 6797 78F7 9716 4E34 90BB 9CDE 6DCB 51DB 8D41 541D
       62CE 73B2 83F1 96F6 9F84 94C3 4F36 7F9A 51CC 7075 9675 5CAD 9886 53E6 4EE4 6E9C 7409 69B4
       786B 998F 7559 5218 7624 6D41 67F3 516D 9F99 804B 5499 7B3C 7ABF 7FE4 7FE7-7FE8 7FEA-7FED
       7FEF 7FF2 7FF4-7FFA 7FFD-7FFF 8002 8007-800A 800E-800F 8011 8013 801A-801B 801D-801F 8021
       8023-8024 802B-8030 8032 8034 8039-803A 803C 803E 8040-8041 8044-8045 8047-8049 804E-8051
       8053 8055-8057 8059 805B-8068 806B-8070 8072-807D 9686 5784 62E2 9647 697C 5A04 6402 7BD3
       6F0F 964B 82A6 5362 9885 5E90 7089 63B3 5364 864F 9C81 9E93 788C 9732 8DEF 8D42 9E7F 6F5E
       7984 5F55 9646 622E 9A74 5415 94DD 4FA3 65C5 5C65 5C61 7F15 8651 6C2F 5F8B 7387 6EE4 7EFF
       5CE6 631B 5B6A 6EE6 5375 4E71 63A0 7565 62A1 8F6E 4F26 4ED1 6CA6 7EB6 8BBA 841D 87BA 7F57
       903B 9523 7BA9 9AA1 88F8 843D 6D1B 9A86 7EDC 5988 9EBB 739B 7801 8682 9A6C 9A82 561B 5417
       57CB 4E70 9EA6 5356 8FC8 8109 7792 9992 86EE 6EE1 8513 66FC 6162 6F2B 807E 8081-8082 8085
       8088 808A 808D-8092 8094-8095 8097 8099 809E 80A3 80A6-80A8 80AC 80B0 80B3 80B5-80B6
       80B8-80B9 80BB 80C5 80C7-80CB 80CF-80D5 80D8 80DF-80E0 80E2-80E3 80E6 80EE 80F5 80F7 80F9
       80FB 80FE-8101 8103-8105 8107-8108 810B-810C 8115 8117 8119 811B-811D 811F-812B 812D-812E
       8130 8133-8135 8137 8139-813D 813F 8C29 8292 832B 76F2 6C13 5FD9 83BD 732B 8305 951A 6BDB
       77DB 94C6 536F 8302 5192 5E3D 8C8C 8D38 4E48 73AB 679A 6885 9176 9709 7164 6CA1 7709 5A92
       9541 6BCF 7F8E 6627 5BD0 59B9 5A9A 95E8 95F7 4EEC 840C 8499 6AAC 76DF 9530 731B 68A6 5B5F
       772F 919A 9761 7CDC 8FF7 8C1C 5F25 7C73 79D8 89C5 6CCC 871C 5BC6 5E42 68C9 7720 7EF5 5195
       514D 52C9 5A29 7F05 9762 82D7 63CF 7784 85D0 79D2 6E3A 5E99 5999 8511 706D 6C11 62BF 76BF
       654F 60AF 95FD 660E 879F 9E23 94ED 540D 547D 8C2C 6478 8140-8145 8147 8149 814D-814F 8152
       8156-8158 815B-815F 8161-8164 8166 8168 816A-816C 816F 8172-8173 8175-8178 8181 8183-8187
       8189 818B-818E 8190 8192-8197 8199-819A 819E-81A2 81A4-81A5 81A7 81A9 81AB-81B2 81B4-81B9
       81BC-81BF 81C4-81C5 81C7-81C9 81CB 81CD-81D3 6479 8611 6A21 819C 78E8 6469 9B54 62B9 672B
       83AB 58A8 9ED8 6CAB 6F20 5BDE 964C 8C0B 725F 67D0 62C7 7261 4EA9 59C6 6BCD 5893 66AE 5E55
       52DF 6155 6728 76EE 7766 7267 7A46 62FF 54EA 5450 94A0 90A3 5A1C 7EB3 6C16 4E43 5976 8010
       5948 5357 7537 96BE 56CA 6320 8111 607C 95F9 6DD6 5462 9981 5185 5AE9 80FD 59AE 9713 502A
       6CE5 5C3C 62DF 4F60 533F 817B 9006 6EBA 852B 62C8 5E74 78BE 64B5 637B 5FF5 5A18 917F 9E1F
       5C3F 634F 8042 5B7D 556E 954A 954D 6D85 60A8 67E0 72DE 51DD 5B81 81D4-81E2 81E4-81E6
       81E8-81E9 81EB 81EE-81F2 81F5-81FA 81FD 81FF 8203 8207-820B 820E-820F 8211 8213 8215-821A
       821D 8220 8224-8227 8229 822E 8232 823A 823C-823D 823F-8243 8245-8246 8248 824A 824C-824E
       8250-8257 8259 825B-825E 8260-8267 8269 62E7 6CDE 725B 626D 94AE 7EBD 8113 6D53 519C 5F04
       5974 52AA 6012 5973 6696 8650 759F 632A 61E6 7CEF 8BFA 54E6 6B27 9E25 6BB4 85D5 5455 5076
       6CA4 556A 8DB4 722C 5E15 6015 7436 62CD 6392 724C 5F98 6E43 6D3E 6500 6F58 76D8 78D0 76FC
       7554 5224 53DB 4E53 5E9E 65C1 802A 80D6 629B 5486 5228 70AE 888D 8DD1 6CE1 5478 80DA 57F9
       88F4 8D54 966A 914D 4F69 6C9B 55B7 76C6 7830 62A8 70F9 6F8E 5F6D 84EC 68DA 787C 7BF7 81A8
       670B 9E4F 6367 78B0 576F 7812 9739 6279 62AB 5288 7435 6BD7 826A-826D 8271 8275-8278
       827B-827C 8280-8281 8283 8285-8287 8289 828C 8290 8293-8296 829A-829B 829E 82A0 82A2-82A3
       82A7 82B2 82B5-82B6 82BA-82BC 82BF-82C0 82C2-82C3 82C5-82C6 82C9 82D0 82D6 82D9-82DA 82DD
       82E2 82E7-82EA 82EC-82EE 82F0 82F2-82F3 82F5-82F6 82F8 82FA 82FC-8300 830A-830B 830D 8310
       8312-8313 8316 8318-8319 831D-8326 8329-832A 832E 8330 8332 8337 833B 833D 5564 813E 75B2
       76AE 5339 75DE 50FB 5C41 8B6C 7BC7 504F 7247 9A97 98D8 6F02 74E2 7968 6487 77A5 62FC 9891
       8D2B 54C1 8058 4E52 576A 82F9 840D 5E73 51ED 74F6 8BC4 5C4F 5761 6CFC 9887 5A46 7834 9B44
       8FEB 7C95 5256 6251 94FA 4EC6 8386 8461 83E9 84B2 57D4 6734 5703 666E 6D66 8C31 66DD 7011
       671F 6B3A 6816 621A 59BB 4E03 51C4 6F06 67D2 6C8F 5176 68CB 5947 6B67 7566 5D0E 8110 9F50
       65D7 7948 7941 9A91 8D77 5C82 4E5E 4F01 542F 5951 780C 5668 6C14 8FC4 5F03 6C7D 6CE3 8BAB
       6390 833E-833F 8341-8342 8344-8345 8348 834A-834E 8353 8355-8359 835D 8362 8370-8376
       8379-837A 837E-8384 8387-8388 838A-838D 838F-8391 8394-8397 8399-839A 839D 839F 83A1-83A7
       83AC-83AF 83B5 83BB 83BE-83BF 83C2-83C4 83C6 83C8-83C9 83CB 83CD-83CE 83D0-83D3 83D5 83D7
       83D9-83DB 83DE 83E2-83E4 83E6-83E8 83EB-83ED 6070 6D3D 7275 6266 948E 94C5 5343 8FC1 7B7E
       4EDF 8C26 4E7E 9ED4 94B1 94B3 524D 6F5C 9063 6D45 8C34 5811 5D4C 6B20 6B49 67AA 545B 8154
       7F8C 5899 8537 5F3A 62A2 6A47 9539 6572 6084 6865 77A7 4E54 4FA8 5DE7 9798 64AC 7FD8 5CED
       4FCF 7A8D 5207 8304 4E14 602F 7A83 94A6 4FB5 4EB2 79E6 7434 52E4 82B9 64D2 79BD 5BDD 6C81
       9752 8F7B 6C22 503E 537F 6E05 64CE 6674 6C30 60C5 9877 8BF7 5E86 743C 7A77 79CB 4E18 90B1
       7403 6C42 56DA 914B 6CC5 8D8B 533A 86C6 66F2 8EAF 5C48 9A71 6E20 83EE-83EF 83F3-83F7
       83FA-83FC 83FE-8400 8402 8405 8407-840A 8410 8412-8417 8419-841B 841E-8423 8429-8430
       8432-8437 8439-843B 843E-8445 8447-8450 8452-8456 8458 845D-8460 8462 8464-8468 846A
       846E-8470 8472 8474 8477 8479 847B-847C 53D6 5A36 9F8B 8DA3 53BB 5708 98A7 6743 919B 6CC9
       5168 75CA 62F3 72AC 5238 529D 7F3A 7094 7638 5374 9E4A 69B7 786E 96C0 88D9 7FA4 7136 71C3
       5189 67D3 74E4 58E4 6518 56B7 8BA9 9976 6270 7ED5 60F9 70ED 58EC 4EC1 4EBA 5FCD 97E7 4EFB
       8BA4 5203 598A 7EAB 6254 4ECD 65E5 620E 8338 84C9 8363 878D 7194 6EB6 5BB9 7ED2 5197 63C9
       67D4 8089 8339 8815 5112 5B7A 5982 8FB1 4E73 6C5D 5165 8925 8F6F 962E 854A 745E 9510 95F0
       6DA6 82E5 5F31 6492 6D12 8428 816E 9CC3 585E 8D5B 4E09 53C1 847D-8481 8483-8486 848A 848D
       848F-8496 8498 849A-849B 849D-84A0 84A2-84AE 84B0-84B1 84B3 84B5-84B7 84BB-84BC 84BE 84C0
       84C2-84C3 84C5-84C8 84CB-84CC 84CE-84CF 84D2 84D4-84D5 84D7-84DC 84DE 84E1-84E2 84E4
       84E7-84EB 84ED-84EF 84F1-84FB 84FD-84FE 8500-8502 4F1E 6563 6851 55D3 4E27 6414 9A9A 626B
       5AC2 745F 8272 6DA9 68EE 50E7 838E 7802 6740 5239 6C99 7EB1 50BB 5565 715E 7B5B 6652 73CA
       82EB 6749 5C71 5220 717D 886B 95EA 9655 64C5 8D61 81B3 5584 6C55 6247 7F2E 5892 4F24 5546
       8D4F 664C 4E0A 5C1A 88F3 68A2 634E 7A0D 70E7 828D 52FA 97F6 5C11 54E8 90B5 7ECD 5962 8D4A
       86C7 820C-820D 8D66 6444 5C04 6151 6D89 793E 8BBE 7837 7533 547B 4F38 8EAB 6DF1 5A20 7EC5
       795E 6C88 5BA1 5A76 751A 80BE 614E 6E17 58F0 751F 7525 7272 5347 7EF3 8503-850B 850D-8510
       8512 8514-8516 8518-8519 851B-851E 8520 8522-852A 852D-8536 853E-8542 8544-8547 854B-8555
       8557-8558 855A-855D 855F-8563 8565-8567 8569-8571 8573 8575-8578 857C-857D 857F-8581 7701
       76DB 5269 80DC 5723 5E08 5931 72EE 65BD 6E7F 8BD7 5C38 8671 5341 77F3 62FE 65F6 4EC0 98DF
       8680 5B9E 8BC6 53F2 77E2 4F7F 5C4E 9A76 59CB 5F0F 793A 58EB 4E16 67FF 4E8B 62ED 8A93 901D
       52BF 662F 55DC 566C 9002 4ED5 4F8D 91CA 9970 6C0F 5E02 6043 5BA4 89C6 8BD5 6536 624B 9996
       5B88 5BFF 6388 552E 53D7 7626 517D 852C 67A2 68B3 6B8A 6292 8F93 53D4 8212 6DD1 758F 4E66
       8D4E 5B70 719F 85AF 6691 66D9 7F72 8700 9ECD 9F20 5C5E 672F 8FF0 6811 675F 620D 7AD6 5885
       5EB6 6570 6F31 8582-8583 8586 8588-858E 8590-859A 859D-85A3 85A5-85A7 85A9 85AB-85AD
       85B1-85B6 85B8 85BA-85C0 85C2-85C8 85CA-85CE 85D1-85D2 85D4 85D6-85DB 85DD-85E3 85E5-85E8
       85EA-85F8 6055 5237 800D 6454 8870 7529 5E05 6813 62F4 971C 53CC 723D 8C01 6C34 7761 7A0E
       542E 77AC 987A 821C 8BF4 7855 6714 70C1 65AF 6495 5636 601D 79C1 53F8 4E1D 6B7B 8086 5BFA
       55E3 56DB 4F3A 4F3C 9972 5DF3 677E 8038 6002 9882 9001 5B8B 8BBC 8BF5 641C 8258 64DE 55FD
       82CF 9165 4FD7 7D20 901F 7C9F 50F3 5851 6EAF 5BBF 8BC9 8083 9178 849C 7B97 867D 968B 968F
       7EE5 9AD3 788E 5C81 7A57 9042 96A7 795F 5B59 635F 7B0B 84D1 68AD 5506 7F29 7410 7D22 9501
       6240 584C 4ED6 5B83 5979 5854 85F9-85FA 85FC-85FE 8600-8604 8606-8610 8612-8615 8617-8626
       8628 862A-8637 8639-863B 863D-864C 8652-8653 8655-8659 865B-865D 865F-8661 8663-866A 736D
       631E 8E4B 8E0F 80CE 82D4 62AC 53F0 6CF0 915E 592A 6001 6C70 574D 644A 8D2A 762B 6EE9 575B
       6A80 75F0 6F6D 8C2D 8C08 5766 6BEF 8892 78B3 63A2 53F9 70AD 6C64 5858 642A 5802 68E0 819B
       5510 7CD6 5018 8EBA 6DCC 8D9F 70EB 638F 6D9B 6ED4 7EE6 8404 6843 9003 6DD8 9676 8BA8 5957
       7279 85E4 817E 75BC 8A8A 68AF 5254 8E22 9511 63D0 9898 8E44 557C 4F53 66FF 568F 60D5 6D95
       5243 5C49 5929 6DFB 586B 7530 751C 606C 8214 8146 6311 6761 8FE2 773A 8DF3 8D34 94C1 5E16
       5385 542C 70C3 866D 866F-8670 8672-8678 8683-8689 868E-8692 8694 8696-869B 869E-86A2
       86A5-86A6 86AB 86AD-86AE 86B2-86B3 86B7-86B9 86BB-86BF 86C1-86C3 86C5 86C8 86CC-86CD
       86D2-86D3 86D5-86D7 86DA 86DC-86DD 86E0-86E3 86E5-86E8 86EA-86EC 86EF 86F5-86F7 86FA-86FD
       86FF 8701 8704-8706 870B-870C 870E-8711 8714 8716 6C40 5EF7 505C 4EAD 5EAD 633A 8247 901A
       6850 916E 77B3 540C 94DC 5F64 7AE5 6876 6345 7B52 7EDF 75DB 5077 6295 5934 900F 51F8 79C3
       7A81 56FE 5F92 9014 6D82 5C60 571F 5410 5154 6E4D 56E2 63A8 9893 817F 8715 892A 9000 541E
       5C6F 81C0 62D6 6258 8131 9E35 9640 9A6E 9A7C 692D 59A5 62D3 553E 6316 54C7 86D9 6D3C 5A03
       74E6 889C 6B6A 5916 8C4C 5F2F 6E7E 73A9 987D 4E38 70F7 5B8C 7897 633D 665A 7696 60CB 5B9B
       5A49 4E07 8155 6C6A 738B 4EA1 6789 7F51 5F80 65FA 671B 5FD8 5984 5A01 8719 871B 871D
       871F-8720 8724 8726-8728 872A-872D 872F-8730 8732-8733 8735-8736 8738-873A 873C-873D
       8740-8746 874A-874B 874D 874F-8752 8754-8756 8758 875A-875F 8761-8762 8766-876D 876F
       8771-8773 8775 8777-877A 877F-8781 8784 8786-8787 8789-878A 878C 878E-8792 8794-8796
       8798-879E 87A0-87A4 5DCD 5FAE 5371 97E6 8FDD 6845 56F4 552F 60DF 4E3A 6F4D 7EF4 82C7 840E
       59D4 4F1F 4F2A 5C3E 7EAC 672A 851A 5473 754F 80C3 5582 9B4F 4F4D 6E2D 8C13 5C09 6170 536B
       761F 6E29 868A 6587 95FB 7EB9 543B 7A33 7D0A 95EE 55E1 7FC1 74EE 631D 8717 6DA1 7A9D 6211
       65A1 5367 63E1 6C83 5DEB 545C 94A8 4E4C 6C61 8BEC 5C4B 65E0 829C 68A7 543E 5434 6BCB 6B66
       4E94 6342 5348 821E 4F0D 4FAE 575E 620A 96FE 6664 7269 52FF 52A1 609F 8BEF 6614 7199 6790
       897F 7852 77FD 6670 563B 5438 9521 727A 87A5-87A7 87A9-87AA 87AE 87B0-87B2 87B4 87B6-87B9
       87BB-87BC 87BE-87BF 87C1-87C5 87C7-87C9 87CC-87D0 87D4-87DA 87DC-87DF 87E1-87E4 87E6-87E9
       87EB-87ED 87EF-87F8 87FA-87FD 87FF-8802 8804-8809 880B-8812 8814 8817-881A 881C-8820 8823
       7A00 606F 5E0C 6089 819D 5915 60DC 7184 70EF 6EAA 6C50 7280 6A84 88AD 5E2D 4E60 5AB3 559C
       94E3 6D17 7CFB 9699 620F 7EC6 778E 867E 5323 971E 8F96 6687 5CE1 4FA0 72ED 4E0B 53A6 590F
       5413 6380 9528 5148 4ED9 9C9C 7EA4 54B8 8D24 8854 8237 95F2 6D8E 5F26 5ACC 663E 9669 73B0
       732E 53BF 817A 9985 7FA1 5BAA 9677 9650 7EBF 76F8 53A2 9576 9999 7BB1 8944 6E58 4E61 7FD4
       7965 8BE6 60F3 54CD 4EAB 9879 5DF7 6A61 50CF 5411 8C61 8427 785D 9704 524A 54EE 56A3 9500
       6D88 5BB5 6DC6 6653 8824-8831 8833-8838 883A-883B 883D-883F 8841-8843 8846-884B 884E-8853
       8855-8856 8858 885A-8860 8866-8867 886A 886D 886F 8871 8873-8876 8878-887C 8880 8883
       8886-8887 8889-888A 888C 888E-8891 8893-8895 8897-889B 889D-88A1 88A3 88A5-88AA 5C0F 5B5D
       6821 8096 5578 7B11 6548 6954 4E9B 6B47 874E 978B 534F 631F 643A 90AA 659C 80C1 8C10 5199
       68B0 5378 87F9 61C8 6CC4 6CFB 8C22 5C51 85AA 82AF 950C 6B23 8F9B 65B0 5FFB 5FC3 4FE1 8845
       661F 8165 7329 60FA 5174 5211 578B 5F62 90A2 884C 9192 5E78 674F 6027 59D3 5144 51F6 80F8
       5308 6C79 96C4 718A 4F11 4FEE 7F9E 673D 55C5 9508 79C0 8896 7EE3 589F 620C 9700 865A 5618
       987B 5F90 8BB8 84C4 9157 53D9 65ED 5E8F 755C 6064 7D6E 5A7F 7EEA 7EED 8F69 55A7 5BA3 60AC
       65CB 7384 88AC 88AE-88B0 88B2-88B6 88B8-88BB 88BD-88C0 88C3-88C4 88C7-88C8 88CA-88CD
       88CF-88D1 88D3 88D6-88D7 88DA-88DE 88E0-88E1 88E6-88E7 88E9-88EF 88F2 88F5-88F7 88FA-88FB
       88FD 88FF-8901 8903-8909 890B-890F 8911 8914-8918 891C-8920 8922-8924 8926-8929 892C-892F
       8931-8933 8935 8937 9009 7663 7729 7EDA 9774 859B 5B66 7A74 96EA 8840 52CB 718F 5FAA 65EC
       8BE2 5BFB 9A6F 5DE1 6B89 6C5B 8BAD 8BAF 900A 8FC5 538B 62BC 9E26 9E2D 5440 4E2B 82BD 7259
       869C 5D16 8859 6DAF 96C5 54D1 4E9A 8BB6 7109 54BD 9609 70DF 6DF9 76D0 4E25 7814 8712 5CA9
       5EF6 8A00 989C 960E 708E 6CBF 5944 63A9 773C 884D 6F14 8273 5830 71D5 538C 781A 96C1 5501
       5F66 7130 5BB4 8C1A 9A8C 6B83 592E 9E2F 79E7 6768 626C 4F6F 75A1 7F8A 6D0B 9633 6C27 4EF0
       75D2 517B 6837 6F3E 9080 8170 5996 7476 8938-8940 8942-8943 8945-895D 8960-8965 8967-897A
       897C-897E 8980 8982 8984-8985 8987-89A1 6447 5C27 9065 7A91 8C23 59DA 54AC 8200 836F 8981
       8000 6930 564E 8036 7237 91CE 51B6 4E5F 9875 6396 4E1A 53F6 66F3 814B 591C 6DB2 4E00 58F9
       533B 63D6 94F1 4F9D 4F0A 8863 9890 5937 9057 79FB 4EEA 80F0 7591 6C82 5B9C 59E8 5F5D 6905
       8681 501A 5DF2 4E59 77E3 4EE5 827A 6291 6613 9091 5C79 4EBF 5F79 81C6 9038 8084 75AB 4EA6
       88D4 610F 6BC5 5FC6 4E49 76CA 6EA2 8BE3 8BAE 8C0A 8BD1 5F02 7FFC 7FCC 7ECE 8335 836B 56E0
       6BB7 97F3 9634 59FB 541F 94F6 6DEB 5BC5 996E 5C39 5F15 9690 89A2-89C0 89C3 89CD 89D3-89D5
       89D7-89D9 89DB 89DD 89DF-89E2 89E4 89E7-89EA 89EC-89EE 89F0-89F2 89F4-89FF 8A01-8A06
       8A08-8A1D 5370 82F1 6A31 5A74 9E70 5E94 7F28 83B9 8424-8425 8367 8747 8FCE 8D62 76C8 5F71
       9896 786C 6620 54DF 62E5 4F63 81C3 75C8 5EB8 96CD 8E0A 86F9 548F 6CF3 6D8C 6C38 607F 52C7
       7528 5E7D 4F18 60A0 5FE7 5C24 7531 90AE 94C0 72B9 6CB9 6E38 9149 6709 53CB 53F3 4F51 91C9
       8BF1 53C8 5E7C 8FC2 6DE4 4E8E 76C2 6986 865E 611A 8206 4F59 4FDE 903E 9C7C 6109 6E1D 6E14
       9685 4E88 5A31 96E8 4E0E 5C7F 79B9 5B87 8BED 7FBD 7389 57DF 828B 90C1 5401 9047 55BB 5CEA
       5FA1 6108 6B32 72F1 80B2 8A89 8A1E-8A3D 8A3F-8A47 8A49-8A78 8A7A-8A80 6D74 5BD3 88D5 9884
       8C6B 9A6D 9E33 6E0A 51A4 5143 57A3 8881 539F 63F4 8F95 56ED 5458 5706 733F 6E90 7F18 8FDC
       82D1 613F 6028 9662 66F0 7EA6 8D8A 8DC3 94A5 5CB3 7CA4 6708 60A6 9605 8018 4E91 90E7 5300
       9668 5141 8FD0 8574 915D 6655 97F5 5B55 531D 7838 6742 683D 54C9 707E 5BB0 8F7D 518D 5728
       54B1 6512 6682 8D5E 8D43 810F 846C 906D 7CDF 51FF 85FB 67A3 65E9 6FA1 86A4 8E81 566A 9020
       7682 7076 71E5 8D23 62E9 5219 6CFD 8D3C 600E 589E 618E 66FE 8D60 624E 55B3 6E23 672D 8F67
       8A81-8A88 8A8B-8A92 8A94-8AE3 94E1 95F8 7728 6805 69A8 548B 4E4D 70B8 8BC8 6458 658B 5B85
       7A84 503A 5BE8 77BB 6BE1 8A79 7C98 6CBE 76CF 65A9 8F97 5D2D 5C55 8638 6808 5360 6218 7AD9
       6E5B 7EFD 6A1F 7AE0 5F70 6F33 5F20 638C 6DA8 6756 4E08 5E10 8D26 4ED7 80C0 7634 969C 62DB
       662D 627E 6CBC 8D75 7167 7F69 5146 8087 53EC 906E 6298 54F2 86F0 8F99 8005 9517 8517 8FD9
       6D59 73CD 659F 771F 7504 7827 81FB 8D1E 9488 4FA6 6795 75B9 8BCA 9707 632F 9547 9635 84B8
       6323 7741 5F81 72F0 4E89 6014 6574 62EF 6B63 653F 8AE4-8B06 8B08-8B25 8B27-8B45 5E27 75C7
       90D1 8BC1 829D 679D 652F 5431 8718 77E5 80A2 8102 6C41 4E4B 7EC7 804C 76F4 690D 6B96 6267
       503C 4F84 5740 6307 6B62 8DBE 53EA 65E8 7EB8 5FD7 631A 63B7 81F3-81F4 7F6E 5E1C 5CD9 5236
       667A 79E9 7A1A 8D28 7099 75D4 6EDE 6CBB 7A92 4E2D 76C5 5FE0 949F 8877 7EC8 79CD 80BF 91CD
       4EF2 4F17 821F 5468 5DDE 6D32 8BCC 7CA5 8F74 8098 5E1A 5492 76B1 5B99 663C 9AA4 73E0 682A
       86DB 6731 732A 8BF8 8BDB 9010 7AF9 70DB 716E 62C4 77A9 5631 4E3B 8457 67F1 52A9 86C0 8D2E
       94F8 7B51 8B46-8B65 8B67-8B6B 8B6D-8B9F 8BAC 8BB1 8BBB 8BC7 8BD0 8BEA 8C09 8C1E 4F4F 6CE8
       795D 9A7B 6293 722A 62FD 4E13 7816 8F6C 64B0 8D5A 7BC6 6869 5E84 88C5 5986 649E 58EE 72B6
       690E 9525 8FFD 8D58 5760 7F00 8C06 51C6 6349 62D9 5353 684C 7422 8301 914C 5544 7740 707C
       6D4A 5179 54A8 8D44 59FF 6ECB 6DC4 5B5C 7D2B 4ED4 7C7D 6ED3 5B50 81EA 6E0D 5B57 9B03 68D5
       8E2A 5B97 7EFC 603B 7EB5 90B9 8D70 594F 63CD 79DF 8DB3 5352 65CF 7956 8BC5 963B 7EC4 94BB
       7E82 5634 9189 6700 7F6A 5C0A 9075 6628 5DE6 4F50 67DE 505A 4F5C 5750 5EA7 E810-E814
       8C38-8C40 8C42-8C45 8C48 8C4A-8C4B 8C4D-8C54 8C56-8C59 8C5B-8C60 8C63-8C69 8C6C-8C72
       8C74-8C77 8C7B-8C81 8C83-8C84 8C86-8C88 8C8B 8C8D-8C93 8C95-8C97 8C99-8CAD 4E8D 4E0C 5140
       4E10 5EFF 5345 4E15 4E98 4E1E 9B32 5B6C 5669 4E28 79BA 4E3F 5315 4E47 592D 723B 536E 6C10
       56DF 80E4 9997 6BD3 777E 9F17 4E36 4E9F 9F10 4E5C 4E69 4E93 8288 5B5B 556C 560F 4EC4 538D
       539D 53A3 53A5 53AE 9765 8D5D 531A 53F5 5326 532E 533E 8D5C 5366 5363 5202 5208 520E 522D
       5233 523F-5240 524C 525E 5261 525C 84AF 527D 5282 5281 5290 5293 5182 7F54 4EBB 4EC3 4EC9
       4EC2 4EE8 4EE1 4EEB 4EDE 4F1B 4EF3 4F22 4F64 4EF5 4F25 4F27 4F09 4F2B 4F5E 4F67 6538 4F5A
       4F5D 8CAE-8D0D 4F5F 4F57 4F32 4F3D 4F76 4F74 4F91 4F89 4F83 4F8F 4F7E 4F7B 4FAA 4F7C 4FAC
       4F94 4FE6 4FE8 4FEA 4FC5 4FDA 4FE3 4FDC 4FD1 4FDF 4FF8 5029 504C 4FF3 502C 500F 502E 502D
       4FFE 501C 500C 5025 5028 507E 5043 5055 5048 504E 506C 507B 50A5 50A7 50A9 50BA 50D6 5106
       50ED 50EC 50E6 50EE 5107 510B 4EDD 6C3D 4F58 4F65 4FCE 9FA0 6C46 7C74 516E 5DFD 9EC9 9998
       5181 5914 52F9 530D 8A07 5310 51EB 5919 5155 4EA0 5156 4EB3 886E 88A4 4EB5 8114 88D2 7980
       5B34 8803 7FB8 51AB 51B1 51BD 51BC 8D0E-8D1C 8D20 8D51-8D52 8D57 8D5F 8D65 8D68-8D6A 8D6C
       8D6E-8D6F 8D71-8D72 8D78-8D80 8D82-8D83 8D86-8D89 8D8C-8D90 8D92-8D93 8D95-8D9E 8DA0-8DA2
       8DA4-8DB0 8DB2 8DB6-8DB7 8DB9 8DBB 8DBD 8DC0-8DC2 8DC5 8DC7-8DCA 8DCD 8DD0 8DD2-8DD4 51C7
       5196 51A2 51A5 8BA0 8BA6-8BA7 8BAA 8BB4-8BB5 8BB7 8BC2-8BC3 8BCB 8BCF 8BCE 8BD2-8BD4 8BD6
       8BD8-8BD9 8BDC 8BDF-8BE0 8BE4 8BE8-8BE9 8BEE 8BF0 8BF3 8BF6 8BF9 8BFC 8BFF-8C00 8C02 8C04
       8C07 8C0C 8C0F 8C11-8C12 8C14-8C16 8C19 8C1B 8C18 8C1D 8C1F-8C21 8C25 8C27 8C2A-8C2B
       8C2E-8C2F 8C32-8C33 8C35-8C36 5369 537A 961D 9622 9621 9631 962A 963D 963C 9642 9649 9654
       965F 9667 966C 9672 9674 9688 968D 9697 96B0 9097 909B 909D 9099 90AC 90A1 90B4 90B3 90B6
       90BA 8DD5 8DD8-8DD9 8DDC 8DE0-8DE2 8DE5-8DE7 8DE9 8DED-8DEE 8DF0-8DF2 8DF4 8DF6 8DFC
       8DFE-8E04 8E06-8E08 8E0B 8E0D-8E0E 8E10-8E13 8E15-8E1C 8E20-8E21 8E24-8E28 8E2B 8E2D 8E30
       8E32-8E34 8E36-8E38 8E3B-8E3C 8E3E-8E3F 8E43 8E45-8E46 8E4C-8E50 8E53-8E58 8E5A-8E65
       8E67-8E68 8E6A-8E6B 8E6E 8E71 90B8 90B0 90CF 90C5 90BE 90D0 90C4 90C7 90D3 90E6 90E2 90DC
       90D7 90DB 90EB 90EF 90FE 9104 9122 911E 9123 9131 912F 9139 9143 9146 520D 5942 52A2
       52AC-52AD 52BE 54FF 52D0 52D6 52F0 53DF 71EE 77CD 5EF4 51F5 51FC 9B2F 53B6 5F01 755A 5DEF
       574C 57A9 57A1 587E 58BC 58C5 58D1 5729 572C 572A 5733 5739 572E-572F 575C 573B 5742 5769
       5785 576B 5786 577C 577B 5768 576D 5776 5773 57AD 57A4 578C 57B2 57CF 57A7 57B4 5793 57A0
       57D5 57D8 57DA 57D9 57D2 57B8 57F4 57EF 57F8 57E4 57DD 8E73 8E75 8E77-8E7B 8E7D-8E7E 8E80
       8E82-8E84 8E86 8E88-8E8E 8E91-8E93 8E95-8E9B 8E9D 8E9F-8EAA 8EAD-8EAE 8EB0-8EB1 8EB3-8EB9
       8EBB-8ECD 8ECF-8EE4 580B 580D 57FD 57ED 5800 581E 5819 5844 5820 5865 586C 5881 5889 589A
       5880 99A8 9F19 61FF 8279 827D 827F 828F 828A 82A8 8284 828E 8291 8297 8299 82AB 82B8 82BE
       82B0 82C8 82CA 82E3 8298 82B7 82AE 82CB-82CC 82C1 82A9 82B4 82A1 82AA 829F 82C4 82CE 82A4
       82E1 8309 82F7 82E4 830F 8307 82DC 82F4 82D2 82D8 830C 82FB 82D3 8311 831A 8306 8314-8315
       82E0 82D5 831C 8351 835B-835C 8308 8392 833C 8334 8331 839B 835E 832F 834F 8347 8343 835F
       8340 8317 8360 832D 833A 8333 8366 8365 8EE5-8F44 8368 831B 8369 836C 836A 836D-836E 83B0
       8378 83B3-83B4 83A0 83AA 8393 839C 8385 837C 83B6 83A9 837D 83B8 837B 8398 839E 83A8 83BA
       83BC 83C1 8401 83E5 83D8 5807 8418 840B 83DD 83FD 83D6 841C 8438 8411 8406 83D4 83DF 840F
       8403 83F8-83F9 83EA 83C5 83C0 8426 83F0 83E1 845C 8451 845A 8459 8473 8487-8488 847A 8489
       8478 843C 8446 8469 8476 848C 848E 8431 846D 84C1 84CD 84D0 84E6 84BD 84D3 84CA 84BF 84BA
       84E0 84A1 84B9 84B4 8497 84E5 84E3 850C 750D 8538 84F0 8539 851F 853A 8F45-8F65 8F6A 8F80
       8F8C 8F92 8F9D 8FA0-8FA2 8FA4-8FA7 8FAA 8FAC-8FAF 8FB2-8FB5 8FB7-8FB8 8FBA-8FBC 8FBF-8FC0
       8FC3 8FC6 8FC9-8FCD 8FCF 8FD2 8FD6-8FD7 8FDA 8FE0-8FE1 8FE3 8FE7 8FEC 8FEF 8FF1-8FF2
       8FF4-8FF6 8FFA-8FFC 8FFE-8FFF 9007-9008 900C 900E 9013 9015 9018 8556 853B 84FF 84FC 8559
       8548 8568 8564 855E 857A 77A2 8543 8572 857B 85A4 85A8 8587 858F 8579 85AE 859C 8585 85B9
       85B7 85B0 85D3 85C1 85DC 85FF 8627 8605 8629 8616 863C 5EFE 5F08 593C 5941 8037 5955 595A
       5958 530F 5C22 5C25 5C2C 5C34 624C 626A 629F 62BB 62CA 62DA 62D7 62EE 6322 62F6 6339 634B
       6343 63AD 63F6 6371 637A 638E 63B4 636D 63AC 638A 6369 63AE 63BC 63F2 63F8 63E0 63FF 63C4
       63DE 63CE 6452 63C6 63BE 6445 6441 640B 641B 6420 640C 6426 6421 645E 6484 646D 6496 9019
       901C 9023-9025 9027-902C 9030-9034 9037 9039-903A 903D 903F-9040 9043 9045-9046 9048-904C
       904E 9054-9056 9059-905A 905C-9061 9064 9066-9067 9069-906C 906F-9073 9076-907C 907E 9081
       9084-9087 9089-908A 908C-9090 9092 9094 9096 9098 909A 909C 909E-90A0 90A4-90A5 90A7-90A9
       90AB 90AD 90B2 90B7 90BC-90BD 90BF-90C0 647A 64B7-64B8 6499 64BA 64C0 64D0 64D7 64E4 64E2
       6509 6525 652E 5F0B 5FD2 7519 5F11 535F 53F1 53FD 53E9 53E8 53FB 5412 5416 5406 544B
       5452-5454 5456 5443 5421 5457 5459 5423 5432 5482 5494 5477 5471 5464 549A-549B 5484 5476
       5466 549D 54D0 54AD 54C2 54B4 54D2 54A7 54A6 54D3-54D4 5472 54A3 54D5 54BB 54BF 54CC
       54D9-54DA 54DC 54A9-54AA 54A4 54DD 54CF 54DE 551B 54E7 5520 54FD 5514 54F3 5522-5523 550F
       5511 5527 552A 5567 558F 55B5 5549 556D 5541 5555 553F 5550 553C 90C2-90C3 90C6 90C8-90C9
       90CB-90CD 90D2 90D4-90D6 90D8-90DA 90DE-90E0 90E3-90E5 90E9-90EA 90EC 90EE 90F0-90F3
       90F5-90F7 90F9-90FC 90FF-9101 9103 9105-9118 911A-911D 911F-9121 9124-912E 9130 9132-9138
       913A-9142 9144 5537 5556 5575-5577 5533 5530 555C 558B 55D2 5583 55B1 55B9 5588 5581 559F
       557E 55D6 5591 557B 55DF 55BD-55BE 5594 5599 55EA 55F7 55C9 561F 55D1 55EB-55EC 55D4 55E6
       55DD 55C4 55EF 55E5 55F2-55F3 55CC-55CD 55E8 55F5 55E4 8F94 561E 5608 560C 5601 5624 5623
       55FE 5600 5627 562D 5658 5639 5657 562C 564D 5662 5659 565C 564C 5654 5686 5664 5671 566B
       567B-567C 5685 5693 56AF 56D4 56D7 56DD 56E1 56F5 56EB 56F9 56FF 5704 570A 5709 571C 5E0F
       5E19 5E14 5E11 5E31 5E3B-5E3C 9145 9147-9148 9151 9153-9156 9158-9159 915B-915C 915F-9160
       9166-9168 916B 916D 9173 917A-917C 9180-9184 9186 9188 918A 918E-918F 9193-9199 919C-91A1
       91A4-91A9 91AB-91AC 91B0-91B3 91B6-91B9 91BB-91C6 91C8 91CB 91D0 91D2-91DB 91DD-91E5 5E37
       5E44 5E54 5E5B 5E5E 5E61 5C8C 5C7A 5C8D 5C90 5C96 5C88 5C98-5C99 5C91 5C9A 5C9C 5CB5 5CA2
       5CBD 5CAC 5CAB 5CB1 5CA3 5CC1 5CB7 5CC4 5CD2 5CE4 5CCB 5CE5 5D02-5D03 5D27 5D26 5D2E 5D24
       5D1E 5D06 5D1B 5D58 5D3E 5D34 5D3D 5D6C 5D5B 5D6F 5D5D 5D6B 5D4B 5D4A 5D69 5D74 5D82 5D99
       5D9D 8C73 5DB7 5DC5 5F73 5F77 5F82 5F87 5F89 5F8C 5F95 5F99 5F9C 5FA8 5FAD 5FB5 5FBC 8862
       5F61 72AD 72B0 72B4 72B7-72B8 72C3 72C1 72CE 72CD 72D2 72E8 72EF 72E9 72F2 72F4 72F7 7301
       72F3 7303 72FA 91E6-9245 72FB 7317 7313 7321 730A 731E 731D 7315 7322 7339 7325 732C 7338
       7331 7350 734D 7357 7360 736C 736F 737E 821B 5925 98E7 5924 5902 9963 9967-996C 9974 9977
       997D 9980 9984 9987 998A 998D 9990-9991 9993-9995 5E80 5E91 5E8B 5E96 5EA5 5EA0 5EB9 5EB5
       5EBE 5EB3 8D53 5ED2 5ED1 5EDB 5EE8 5EEA 81BA 5FC4 5FC9 5FD6 5FCF 6003 5FEE 6004 5FE1 5FE4
       5FFE 6005-6006 5FEA 5FED 5FF8 6019 6035 6026 601B 600F 600D 6029 602B 600A 603F 6021
       6078-6079 607B 607A 6042 9246-9273 9275-928D 928F-92A7 606A 607D 6096 609A 60AD 609D 6083
       6092 608C 609B 60EC 60BB 60B1 60DD 60D8 60C6 60DA 60B4 6120 6126 6115 6123 60F4 6100 610E
       612B 614A 6175 61AC 6194 61A7 61B7 61D4 61F5 5FDD 96B3 95E9 95EB 95F1 95F3 95F5-95F6 95FC
       95FE 9603-9604 9606 9608 960A-960D 960F 9612 9615-9617 9619-961A 4E2C 723F 6215 6C35 6C54
       6C5C 6C4A 6CA3 6C85 6C90 6C94 6C8C 6C68-6C69 6C74 6C76 6C86 6CA9 6CD0 6CD4 6CAD 6CF7-6CF8
       6CF1 6CD7 6CB2 6CE0 6CD6 6CFA 6CEB 6CEE 6CB1 6CD3 6CEF 6CFE 92A8-92AD 92AF-92C7 92C9-9309
       6D39 6D27 6D0C 6D43 6D48 6D07 6D04 6D19 6D0E 6D2B 6D4D 6D2E 6D35 6D1A 6D4F 6D52 6D54 6D33
       6D91 6D6F 6D9E 6DA0 6D5E 6D93-6D94 6D5C 6D60 6D7C 6D63 6E1A 6DC7 6DC5 6DDE 6E0E 6DBF 6DE0
       6E11 6DE6 6DDD 6DD9 6E16 6DAB 6E0C 6DAE 6E2B 6E6E 6E4E 6E6B 6EB2 6E5F 6E86 6E53-6E54 6E32
       6E25 6E44 6EDF 6EB1 6E98 6EE0 6F2D 6EE2 6EA5 6EA7 6EBD 6EBB 6EB7 6ED7 6EB4 6ECF 6E8F 6EC2
       6E9F 6F62 6F46-6F47 6F24 6F15 6EF9 6F2F 6F36 6F4B 6F74 6F2A 6F09 6F29 6F89 6F8D 6F8C 6F78
       6F72 6F7C 6F7A 6FD1 930A-933D 933F-9369 936B 6FC9 6FA7 6FB9 6FB6 6FC2 6FE1 6FEE 6FDE 6FE0
       6FEF 701A 7023 701B 7039 7035 704F 705E 5B80 5B84 5B95 5B93 5BA5 5BB8 752F 9A9E 6434 5BE4
       5BEE 8930 5BF0 8E47 8B07 8FB6 8FD3 8FD5 8FE5 8FEE 8FE4 8FE9 8FE6 8FF3 8FE8 9005 9004 900B
       9026 9011 900D 9016 9021 9035-9036 902D 902F 9044 9051-9052 9050 9068 9058 9062 905B 66B9
       9074 907D 9082 9088 9083 908B 5F50 5F57 5F56 5F58 5C3B 54AB 5C50 5C59 5B71 5C63 5C66 7FBC
       5F2A 5F29 5F2D 8274 5F3C 9B3B 5C6E 5981 5983 598D 59A9-59AA 59A3 936C-938E 9390-93C9
       93CB-93CD 5997 59CA 59AB 599E 59A4 59D2 59B2 59AF 59D7 59BE 5A05-5A06 59DD 5A08 59E3 59D8
       59F9 5A0C 5A09 5A32 5A34 5A11 5A23 5A13 5A40 5A67 5A4A 5A55 5A3C 5A62 5A75 80EC 5AAA 5A9B
       5A77 5A7A 5ABE 5AEB 5AB2 5AD2 5AD4 5AB8 5AE0 5AE3 5AF1 5AD6 5AE6 5AD8 5ADC 5B09 5B17 5B16
       5B32 5B37 5B40 5C15 5C1C 5B5A 5B65 5B73 5B51 5B53 5B62 9A75 9A77-9A78 9A7A 9A7F 9A7D
       9A80-9A81 9A85 9A88 9A8A 9A90 9A92-9A93 9A96 9A98 9A9B-9A9D 9A9F-9AA0 9AA2-9AA3 9AA5 9AA7
       7E9F 7EA1 7EA3 7EA5 7EA8-7EA9 93CE-93D5 93D7-942E 7EAD 7EB0 7EBE 7EC0-7EC2 7EC9 7ECB-7ECC
       7ED0 7ED4 7ED7 7EDB 7EE0-7EE1 7EE8 7EEB 7EEE-7EEF 7EF1-7EF2 7F0D 7EF6 7EFA-7EFB 7EFE
       7F01-7F03 7F07-7F08 7F0B-7F0C 7F0F 7F11-7F12 7F17 7F19 7F1C 7F1B 7F1F 7F21-7F27 7F2A-7F2D
       7F2F-7F33 7F35 5E7A 757F 5DDB 753E 9095 738E 7391 73AE 73A2 739F 73CF 73C2 73D1 73B7 73B3
       73C0 73C9 73C8 73E5 73D9 987C 740A 73E9 73E7 73DE 73BA 73F2 740F 742A 745B 7426 7425 7428
       7430 742E 742C 942F-943D 943F-946A 946C-9484 9491 9496 9498 94C7 94CF 94D3-94D4 94DA 94E6
       94FB 951C 9520 741B 741A 7441 745C 7457 7455 7459 7477 746D 747E 749C 748E 7480-7481 7487
       748B 749E 74A8-74A9 7490 74A7 74D2 74BA 97EA-97EC 674C 6753 675E 6748 6769 67A5 6787 676A
       6773 6798 67A7 6775 67A8 679E 67AD 678B 6777 677C 67F0 6809 67D8 680A 67E9 67B0 680C 67D9
       67B5 67DA 67B3 67DD 6800 67C3 67B8 67E2 680E 67C1 67FD 6832-6833 6860-6861 684E 6862 6844
       6864 6883 681D 6855 6866 6841 6867 6840 683E 684A 6849 6829 68B5 688F 6874 6877 6893 686B
       68C2 696E 68FC 691F-6920 68F9 9527 9533 953D 9543 9548 954B 9555 955A 9560 956E 9574-9575
       9577-957E 9580-95CB 6924 68F0 690B 6901 6957 68E3 6910 6971 6939 6960 6942 695D 6984 696B
       6980 6998 6978 6934 69CC 6987-6988 69CE 6989 6966 6963 6979 699B 69A7 69BB 69AB 69AD 69D4
       69B1 69C1 69CA 69DF 6995 69E0 698D 69FF 6A2F 69ED 6A17-6A18 6A65 69F2 6A44 6A3E 6AA0 6A50
       6A5B 6A35 6A8E 6A79 6A3D 6A28 6A58 6A7C 6A91 6A90 6AA9 6A97 6AAB 7337 7352 6B81-6B82 6B87
       6B84 6B92-6B93 6B8D 6B9A-6B9B 6BA1 6BAA 8F6B 8F6D 8F71-8F73 8F75-8F76 8F78 8F77 8F79-8F7A
       8F7C 8F7E 8F81-8F82 8F84 8F87 8F8B 95CC-95E7 95EC 95FF 9607 9613 9618 961B 961E 9620
       9623-9629 962B-962D 962F-9630 9637-963A 963E 9641 9643 964A 964E-964F 9651-9653 9656-965A
       965C-965E 9660 9663 9665-9666 966B 966D-9671 9673 9678-9684 9687 9689-968A 8F8D-8F8F 8F98
       8F9A 8ECE 620B 6217 621B 621F 6222 6221 6225 6224 622C 81E7 74EF 74F4 74FF 750F 7511 7513
       6534 65EE-65F0 660A 6619 6772 6603 6615 6600 7085 66F7 661D 6634 6631 6636 6635 8006 665F
       6654 6641 664F 6656 6661 6657 6677 6684 668C 66A7 669D 66BE 66DB-66DC 66E6 66E9 8D32-8D33
       8D36 8D3B 8D3D 8D40 8D45-8D46 8D48-8D49 8D47 8D4D 8D55 8D59 89C7 89CA-89CC 89CE-89D1 726E
       729F 725D 7266 726F 727E-727F 7284 728B 728D 728F 7292 6308 6332 63B0 968C 968E 9691-9693
       9695-9696 969A-969B 969D-96A6 96A8-96AF 96B1-96B2 96B4-96B5 96B7-96B8 96BA-96BB 96BF
       96C2-96C3 96C8 96CA-96CB 96D0-96D1 96D3-96D4 96D6-96DF 96E1-96E7 96EB-96EE 96F0-96F2
       96F4-96F5 96F8 96FA-96FD 96FF 9702-9703 9705 970A-970C 9710-9712 9714-9715 9717-971B 971D
       971F-9720 643F 64D8 8004 6BEA 6BF3 6BFD 6BF5 6BF9 6C05 6C07 6C06 6C0D 6C15 6C18-6C1A 6C21
       6C29 6C24 6C2A 6C32 6535 6555 656B 724D 7252 7256 7230 8662 5216 809F 809C 8093 80BC 670A
       80BD 80B1 80AB 80AD 80B4 80B7 80E7-80EA 80DB 80C2 80C4 80D9 80CD 80D7 6710 80DD 80EB 80F1
       80F4 80ED 810D-810E 80F2 80FC 6715 8112 8C5A 8136 811E 812C 8118 8132 8148 814C 8153 8174
       8159-815A 8171 8160 8169 817C-817D 816D 8167 584D 5AB5 8188 8182 8191 6ED5 81A3 81AA 81CC
       6726 81CA 81BB 9721-9729 972B-972C 972E-972F 9731 9733-9737 973A-973D 973F-9751 9754-9755
       9757-9758 975A 975C-975D 975F 9763-9764 9766-9768 976A-9772 9775 9777-977B 977D-9784
       9786-978A 978C 978E-9790 9793 9795-9797 9799-979D 81C1 81A6 6B24 6B37 6B39 6B43 6B46 6B59
       98D1-98D3 98D5 98D9-98DA 6BB3 5F40 6BC2 89F3 6590 9F51 6593 65BC 65C6 65C4 65C3 65CC 65CE
       65D2 65D6 7080 709C 7096 709D 70BB 70C0 70B7 70AB 70B1 70E8 70CA 7110 7113 7116 712F 7131
       7173 715C 7168 7145 7172 714A 7178 717A 7198 71B3 71B5 71A8 71A0 71E0 71D4 71E7 71F9 721D
       7228 706C 7118 7166 71B9 623E 623D 6243 6248-6249 793B 7940 7946 7949 795B-795C 7953 795A
       7962 7957 7960 796F 7967 797A 7985 798A 799A 79A7 79B3 5FD1 5FD0 979E-979F 97A1-97A2
       97A4-97AA 97AC 97AE 97B0-97B1 97B3 97B5-97E5 97E8 97EE-97F2 97F4 97F7-980E 603C 605D 605A
       6067 6041 6059 6063 60AB 6106 610D 615D 61A9 619D 61CB 61D1 6206 8080 807F 6C93 6CF6 6DFC
       77F6 77F8 7800 7809 7817-7818 7811 65AB 782D 781C-781D 7839-783B 781F 783C 7825 782C 7823
       7829 784E 786D 7856-7857 7826 7850 7847 784C 786A 789B 7893 789A 7887 789C 78A1 78A3 78B2
       78B9 78A5 78D4 78D9 78C9 78EC 78F2 7905 78F4 7913 7924 791E 7934 9F9B 9EF9 9EFB-9EFC 76F1
       7704 770D 76F9 7707-7708 771A 7722 7719 772D 7726 7735 7738 7750-7751 7747 7743 775A 7768
       980F-986E 7762 7765 777F 778D 777D 7780 778C 7791 779F-77A0 77B0 77B5 77BD 753A 7540 754E
       754B 7548 755B 7572 7579 7583 7F58 7F61 7F5F 8A48 7F68 7F74 7F71 7F79 7F81 7F7E 76CD 76E5
       8832 9485-9487 948B 948A 948C-948D 948F-9490 9494 9497 9495 949A-949C 94A3-94A4 94AB 94AA
       94AD 94AC 94AF-94B0 94B2 94B4 94B6-94BA 94BC-94BD 94BF 94C4 94C8-94CE 94D0-94D2 94D5-94D7
       94D9 94D8 94DB 94DE-94E0 94E2 94E4-94E5 94E7-94E8 94EA 986F-9874 988B 988E 9892 9895 9899
       98A3 98A8-98CD 98CF-98D0 98D4 98D6-98D7 98DB-98DD 98E0-98E6 98E9-9907 94E9 94EB 94EE-94EF
       94F3-94F5 94F7 94F9 94FC-94FD 94FF 9503 9502 9506-9507 9509-950A 950D-950F 9512-9516 9518
       951B 951D-951F 9522 952A-952B 9529 952C 9531-9532 9534 9536-9538 953C 953E-953F 9542 9535
       9544-9546 9549 954C 954E-954F 9552-9554 9556-9559 955B 955E-955F 955D 9561-9562 9564-956C
       956F 9571-9573 953A 77E7 77EC 96C9 79D5 79ED 79E3 79EB 7A06 5D47 7A03 7A02 7A1E 7A14
       9908-990C 990E-990F 9911-992D 992F-9953 9956-9962 9964 9966 9973 9978-9979 997B 997E
       9982-9983 9989 7A39 7A37 7A51 9ECF 99A5 7A70 7688 768E 7693 7699 76A4 74DE 74E0 752C 9E20
       9E22 9E28-9E2C 9E32 9E31 9E36 9E38 9E37 9E39-9E3A 9E3E 9E41-9E42 9E44 9E46-9E49 9E4B-9E4C
       9E4E 9E51 9E55 9E57 9E5A-9E5C 9E5E 9E63 9E66-9E6C 9E71 9E6D 9E73 7592 7594 7596 75A0 759D
       75AC 75A3 75B3-75B4 75B8 75C4 75B1 75B0 75C3 75C2 75D6 75CD 75E3 75E8 75E6 75E4 75EB 75E7
       7603 75F1 75FC 75FF 7610 7600 7605 760C 7617 760A 7625 7618 7615 7619 998C 998E 999A-99A4
       99A6-99A7 99A9-99F9 761B 763C 7622 7620 7640 762D 7630 763F 7635 7643 763E 7633 764D 765E
       7654 765C 7656 766B 766F 7FCA 7AE6 7A78-7A79 7A80 7A86 7A88 7A95 7AA6 7AA0 7AAC 7AA8 7AAD
       7AB3 8864 8869 8872 887D 887F 8882 88A2 88C6 88B7 88BC 88C9 88E2 88CE 88E3 88E5 88F1 891A
       88FC 88E8 88FE 88F0 8921 8919 8913 891B 890A 8934 892B 8936 8941 8966 897B 758B 80E5 76B2
       76B4 77DC 8012 8014 8016 801C 8020 8022 8025-8027 8029 8028 8031 800B 8035 8043 8046 804D
       8052 8069 8071 8983 9878 9880 9883 99FA-9A59 9889 988C-988D 988F 9894 989A-989B 989E-989F
       98A1-98A2 98A5-98A6 864D 8654 866C 866E 867F 867A 867C 867B 86A8 868D 868B 86AC 869D 86A7
       86A3 86AA 8693 86A9 86B6 86C4 86B5 86CE 86B0 86BA 86B1 86AF 86C9 86CF 86B4 86E9 86F1-86F2
       86ED 86F3 86D0 8713 86DE 86F4 86DF 86D8 86D1 8703 8707 86F8 8708 870A 870D 8709 8723 873B
       871E 8725 872E 871A 873E 8748 8734 8731 8729 8737 873F 8782 8722 877D-877E 877B 8760 8770
       874C 876E 878B 8753 8763 877C 8764 8759 8765 8793 87AF 87A8 87D2 9A5A-9A6B 9A72 9A83 9A89
       9A8D-9A8E 9A94-9A95 9A99 9AA6 9AA9-9AAF 9AB2-9AB5 9AB9 9ABB 9ABD-9ABF 9AC3-9AC4 9AC6-9ACA
       9ACD-9AD0 9AD2 9AD4-9AD7 9AD9-9ADE 9AE0 9AE2-9AE5 9AE7-9AEA 9AEC 9AEE 9AF0-9AF8 9AFA
       9AFC-9B02 9B04-9B06 87C6 8788 8785 87AD 8797 8783 87AB 87E5 87AC 87B5 87B3 87CB 87D3 87BD
       87D1 87C0 87CA 87DB 87EA 87E0 87EE 8816 8813 87FE 880A 881B 8821 8839 883C 7F36 7F42
       7F44-7F45 8210 7AFA 7AFD 7B08 7B03-7B04 7B15 7B0A 7B2B 7B0F 7B47 7B38 7B2A 7B19 7B2E 7B31
       7B20 7B25 7B24 7B33 7B3E 7B1E 7B58 7B5A 7B45 7B75 7B4C 7B5D 7B60 7B6E 7B7B 7B62 7B72 7B71
       7B90 7BA6-7BA7 7BB8 7BAC 7B9D 7BA8 7B85 7BAA 7B9C 7BA2 7BAB 7BB4 7BD1 7BC1 7BCC 7BDD 7BDA
       7BE5-7BE6 7BEA 7C0C 7BFE 7BFC 7C0F 7C16 7C0B 9B07 9B09-9B0E 9B10-9B12 9B14-9B1E 9B20-9B22
       9B24-9B2E 9B30-9B31 9B33-9B3A 9B3D-9B40 9B46 9B4A-9B4C 9B4E 9B50 9B52-9B53 9B55-9B7B 7C1F
       7C2A 7C26 7C38 7C41 7C40 81FE 8201-8202 8204 81EC 8844 8221-8223 822D 822F 8228 822B 8238
       823B 8233-8234 823E 8244 8249 824B 824F 825A 825F 8268 887E 8885 8888 88D8 88DF 895E 7F9D
       7F9F 7FA7 7FAF-7FB0 7FB2 7C7C 6549 7C91 7C9D 7C9C 7C9E 7CA2 7CB2 7CBC-7CBD 7CC1 7CC7
       7CCC-7CCD 7CC8 7CC5 7CD7 7CE8 826E 66A8 7FBF 7FCE 7FD5 7FE5 7FE1 7FE6 7FE9 7FEE 7FF3 7CF8
       7D77 7DA6 7DAE 7E47 7E9B 9EB8 9EB4 8D73 8D84 8D94 8D91 8DB1 8D67 8D6D 8C47 8C49 914A 9150
       914E-914F 9164 9B7C-9BDB 9162 9161 9170 9169 916F 917D-917E 9172 9174 9179 918C 9185 9190
       918D 9191 91A2-91A3 91AA 91AD-91AF 91B5 91B4 91BA 8C55 9E7E 8DB8 8DEB 8E05 8E59 8E69 8DB5
       8DBF 8DBC 8DBA 8DC4 8DD6-8DD7 8DDA 8DDE 8DCE-8DCF 8DDB 8DC6 8DEC 8DF7-8DF8 8DE3 8DF9 8DFB
       8DE4 8E09 8DFD 8E14 8E1D 8E1F 8E2C 8E2E 8E23 8E2F 8E3A 8E40 8E39 8E35 8E3D 8E31 8E49
       8E41-8E42 8E51-8E52 8E4A 8E70 8E76 8E7C 8E6F 8E74 8E85 8E8F 8E94 8E90 8E9C 8E9E 8C78 8C82
       8C8A 8C85 8C98 8C94 659B 89D6 89DE 89DA 89DC 9BDC-9C3B 89E5 89EB 89EF 8A3E 8B26 9753 96E9
       96F3 96EF 9706 9701 9708 970F 970E 972A 972D 9730 973E 9F80 9F83 9F85-9F8A 9F8C 9EFE 9F0B
       9F0D 96B9 96BC-96BD 96CE 96D2 77BF 96E0 928E 92AE 92C8 933E 936A 93CA 938F 943E 946B 9C7F
       9C82 9C85-9C88 7A23 9C8B 9C8E 9C90-9C92 9C94-9C95 9C9A-9C9B 9C9E-9CA3 9CA5-9CA9 9CAB
       9CAD-9CAE 9CB0-9CB7 9CBA-9CBD 9CC4-9CC7 9CCA-9CCB 9C3C-9C7B 9C7D-9C7E 9C80 9C83-9C84
       9C89-9C8A 9C8C 9C8F 9C93 9C96-9C99 9C9D 9CAA 9CAC 9CAF 9CB9 9CBE-9CC2 9CC8-9CC9 9CD1-9CD2
       9CDA-9CDB 9CE0-9CE1 9CCC-9CD0 9CD3-9CD5 9CD7-9CD9 9CDC-9CDD 9CDF 9CE2 977C 9785 9791-9792
       9794 97AF 97AB 97A3 97B2 97B4 9AB1 9AB0 9AB7 9E58 9AB6 9ABA 9ABC 9AC1 9AC0 9AC5 9AC2
       9ACB-9ACC 9AD1 9B45 9B43 9B47 9B49 9B48 9B4D 9B51 98E8 990D 992E 9955 9954 9ADF 9AE1 9AE6
       9AEF 9AEB 9AFB 9AED 9AF9 9B08 9B0F 9B13 9B1F 9B23 9EBD-9EBE 7E3B 9E82 9E87-9E88 9E8B 9E92
       93D6 9E9D 9E9F 9EDB-9EDD 9EE0 9EDF 9EE2 9EE9 9EE7 9EE5 9EEA 9EEF 9F22 9F2C 9F2F 9F39 9F37
       9F3D-9F3E 9F44 9CE3-9D42 E234-E291 9D43-9DA2 E292-E2EF 9DA3-9E02 E2F0-E34D 9E03-9E1E 9E24
       9E27 9E2E 9E30 9E34 9E3B-9E3C 9E40 9E4D 9E50 9E52-9E54 9E56 9E59 9E5D 9E5F-9E62 9E65
       9E6E-9E6F 9E72 9E74-9E7D 9E80-9E81 9E83-9E86 9E89-9E8A 9E8C-9E91 9E94-9E9C 9E9E 9EA0-9EA5
       9EA7-9EAA E34E-E3AB 9EAB-9EB3 9EB5-9EB7 9EB9-9EBA 9EBC 9EBF-9EC3 9EC5-9EC8 9ECA-9ECC 9ED0
       9ED2-9ED3 9ED5-9ED7 9ED9-9EDA 9EDE 9EE1 9EE3-9EE4 9EE6 9EE8 9EEB-9EEE 9EF0-9EF8 9EFA 9EFD
       9EFF-9F0A 9F0C 9F0F 9F11-9F12 9F14-9F16 9F18 9F1A-9F1F 9F21 9F23-9F2B 9F2D-9F2E 9F30-9F31
       E3AC-E409 9F32-9F36 9F38 9F3A 9F3C 9F3F-9F43 9F45-9F4F 9F52-9F7E 9F81-9F82 9F8D-9F98
       9F9C-9F9E 9FA1-9FA5 F92C F979 F995 F9E7 F9F1 E40A-E467 FA0C-FA0F FA11 FA13-FA14 FA18
       FA1F-FA21 FA23-FA24 FA27-FA29 2E81 E816-E818 2E84 3473 3447 2E88 2E8B 9FB4 359E 361A 360E
       2E8C 2E97 396E 3918 9FB5 39CF 39DF 3A73 39D0 9FB6-9FB7 3B4E 3C6E 3CE0 2EA7 E831 9FB8 2EAA
       4056 415F 2EAE 4337 2EB3 2EB6-2EB7 E83B 43B1 43AC 2EBB 43DD 44D6 4661 464C 9FB9 4723 4729
       477C 478D 2ECA 4947 497A 497D 4982-4983 4985-4986 499F 499B 49B7 49B6 9FBA E855 4CA3
       4C9F-4CA1 4C77 4CA2 4D13-4D19 4DAE 9FBB E468-E4C5")]

/-- The code points below U+10000 that take four octets. -/
def gb18030Fours : String :=
  "80-A3 A5-A6 A9-AF B2-B6 B8-D6 D8-DF E2-E7 EB EE-F1 F4-F6 F8 FB FD-100 102-112 114-11A
   11C-12A 12C-143 145-147 149-14C 14E-16A 16C-1CD 1CF 1D1 1D3 1D5 1D7 1D9 1DB 1DD-1F8
   1FA-250 252-260 262-2C6 2C8 2CC-2D8 2DA-390 3A2 3AA-3B0 3C2 3CA-400 402-40F 450 452-200F
   2011-2012 2017 201A-201B 201E-2024 2027-202F 2031 2034 2036-203A 203C-20AB 20AD-2102 2104
   2106-2108 210A-2115 2117-2120 2122-215F 216C-216F 217A-218F 2194-2195 219A-2207 2209-220E
   2210 2212-2214 2216-2219 221B-221C 2221-2222 2224 2226 222C-222D 222F-2233 2238-223C
   223E-2247 2249-224B 224D-2251 2253-225F 2262-2263 2268-226D 2270-2294 2296-2298 229A-22A4
   22A6-22BE 22C0-2311 2313-245F 246A-2473 249C-24FF 254C-254F 2574-2580 2590-2592 2596-259F
   25A2-25B1 25B4-25BB 25BE-25C5 25C8-25CA 25CC-25CD 25D0-25E1 25E6-2604 2607-2608 260A-263F
   2641 2643-2E80 2E82-2E83 2E85-2E87 2E89-2E8A 2E8D-2E96 2E98-2EA6 2EA8-2EA9 2EAB-2EAD
   2EAF-2EB2 2EB4-2EB5 2EB8-2EBA 2EBC-2EC9 2ECB-2FEF 2FFC-2FFF 3004 3018-301C 301F-3020
   302A-303D 303F-3040 3094-309A 309F-30A0 30F7-30FB 30FF-3104 312A-321F 322A-3230 3232-32A2
   32A4-338D 3390-339B 339F-33A0 33A2-33C3 33C5-33CD 33CF-33D0 33D3-33D4 33D6-3446 3448-3472
   3474-359D 359F-360D 360F-3619 361B-3917 3919-396D 396F-39CE 39D1-39DE 39E0-3A72 3A74-3B4D
   3B4F-3C6D 3C6F-3CDF 3CE1-4055 4057-415E 4160-4336 4338-43AB 43AD-43B0 43B2-43DC 43DE-44D5
   44D7-464B 464D-4660 4662-4722 4724-4728 472A-477B 477D-478C 478E-4946 4948-4979 497B-497C
   497E-4981 4984 4987-499A 499C-499E 49A0-49B5 49B8-4C76 4C78-4C9E 4CA4-4D12 4D1A-4DAD
   4DAF-4DFF 9FA6-D7FF E76C E7C8 E7E7-E7F3 E815 E819-E81D E81F-E825 E827-E82A E82D-E830
   E833-E83A E83C-E842 E844-E853 E856-E863 E865-F92B F92D-F978 F97A-F994 F996-F9E6 F9E8-F9F0
   F9F2-FA0B FA10 FA12 FA15-FA17 FA19-FA1E FA22 FA25-FA26 FA2A-FE2F FE32 FE45-FE48 FE53 FE58
   FE67 FE6C-FF00 FF5F-FFDF FFE6-FFFF"

end RecipientRewriting.Charset
