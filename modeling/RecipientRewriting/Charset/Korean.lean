import RecipientRewriting.Charset.Basic

/-!
# The Korean character set

The characters of two octets, KS X 1001 with all Hangul syllables, in rows of 190
by the first octet from 81.
-/

namespace RecipientRewriting.Charset

def koreanTable : CodeTable :=
  [(0,
      "AC02-AC03 AC05-AC06 AC0B-AC0F AC18 AC1E-AC1F AC21-AC23 AC25-AC2B AC2E AC32-AC34 FFFD FFFD
       FFFD FFFD FFFD FFFD AC35-AC37 AC3A-AC3B AC3D-AC3F AC41-AC4A AC4C AC4E-AC53 AC55 FFFD FFFD
       FFFD FFFD FFFD FFFD AC56-AC57 AC59-AC5B AC5D-AC6F AC72-AC73 AC75-AC76 AC79 AC7B-AC7F AC82
       AC87-AC88 AC8D-AC8F AC91-AC93 AC95-AC9B AC9E ACA2-ACA7 ACAB ACAD-ACAE ACB1-ACB7 ACBA
       ACBE-ACC0 ACC2-ACC3 ACC5-ACC7 ACC9-ACCB ACCD-ACD4 ACD6 ACD8-ACDF ACE2-ACE3 ACE5-ACE6 ACE9
       ACEB ACED-ACEE ACF2 ACF4 ACF7-ACFB ACFE-ACFF AD01-AD03 AD05 AD07-AD0B AD0E AD10 AD12-AD17
       AD19-AD1B AD1D-AD1F AD21-AD28 AD2A-AD2B AD2E-AD33 FFFD FFFD FFFD FFFD FFFD FFFD AD36-AD37
       AD39-AD3B AD3D-AD43 AD46 AD48 AD4A-AD4F AD51-AD53 AD55-AD57 FFFD FFFD FFFD FFFD FFFD FFFD
       AD59-AD60 AD62 AD64-AD6B AD6E-AD6F AD71-AD72 AD77-AD7A AD7E AD80 AD83-AD87 AD8A-AD8B
       AD8D-AD8F AD91-AD9B AD9E-ADA3 ADA5-ADB6 ADB8-ADBF ADC2-ADC3 ADC5-ADC7 ADC9-ADCF ADD2
       ADD4-ADDB ADDD-ADDF ADE1-ADE3 ADE5-ADF7 ADFA-ADFB ADFD-ADFE AE02-AE07 AE0A AE0C AE0E-AE13
       AE15-AE1C FFFD FFFD FFFD FFFD FFFD FFFD AE1D-AE2F AE32-AE33 AE35-AE36 AE39 AE3B-AE3C FFFD
       FFFD FFFD FFFD FFFD FFFD AE3D-AE3F AE42 AE44 AE47-AE49 AE4B AE4F AE51-AE53 AE55 AE57-AE5B
       AE5E AE62-AE64 AE66-AE67 AE6A-AE6B AE6D-AE6F AE71-AE77 AE7A AE7E-AE83 AE86-AE8B AE8D-AEBB
       AEBF AEC1-AEC3 AEC5-AECB AECE AED2-AED7 AEDA-AEDB AEDD-AEE7 AEE9-AEEA AEEC AEEE-AEF3
       AEF5-AEF7 AEF9-AEFB AEFD-AF05 FFFD FFFD FFFD FFFD FFFD FFFD AF06 AF09-AF0C AF0E-AF0F
       AF11-AF23 FFFD FFFD FFFD FFFD FFFD FFFD AF24-AF2B AF2E-AF2F AF31 AF33 AF35-AF3B AF3E AF40
       AF44-AF47 AF4A-AF4F AF51-AF5B AF5E-AF63 AF66-AF78 AF7A-AF7F AF81-AF83 AF85-AF87 AF89-AF8F
       AF92-AF94 AF96-AF9B AF9D-AFB7 AFBA-AFBB AFBD-AFBF AFC1-AFC6 AFCA AFCC AFCF-AFD3 AFD5-AFDB
       AFDD-AFE1 FFFD FFFD FFFD FFFD FFFD FFFD AFE2-AFE7 AFEA-AFEF AFF2-AFF3 AFF5-AFF7 AFF9-AFFF
       B002-B003 FFFD FFFD FFFD FFFD FFFD FFFD B005-B00B B00D-B00F B011-B013 B015-B01B B01E-B027
       B029-B043 B046-B047 B049 B04B B04D B04F-B052 B056 B058 B05A-B05C B05E-B07B B07E-B07F
       B081-B083 B085-B08B B08E B090 B092-B097 B09B B09D-B09E B0A3-B0A7 B0AA B0B0 B0B2 B0B6-B0B7
       B0B9-B0BB B0BD-B0C3 B0C6 B0CA-B0CF B0D2 FFFD FFFD FFFD FFFD FFFD FFFD B0D3 B0D5-B0D7
       B0D9-B0DF B0E1-B0E4 B0E6-B0F0 FFFD FFFD FFFD FFFD FFFD FFFD B0F1-B107 B10A B10D-B10F B111
       B114-B117 B11A B11E-B122 B126-B127 B129-B12B B12D-B133 B136 B13A-B13F B142-B143 B145-B147
       B149-B14F B152-B153 B156-B157 B159-B15B B15D-B15F B161-B177 B17A-B17B B17D-B17F B181
       B183-B187 B18A B18C B18E-B191 B195-B197 B199-B19B B19D-B1A7 B1A9-B1B8 FFFD FFFD FFFD FFFD
       FFFD FFFD B1B9-B1CB B1CD-B1CF B1D1-B1D3 B1D5 FFFD FFFD FFFD FFFD FFFD FFFD B1D6-B1DB B1DE
       B1E0-B1E7 B1EA-B1EB B1ED-B1EF B1F1-B1F8 B1FA B1FC B1FE-B203 B206-B207 B209-B20A B20D-B213
       B216 B218 B21A-B21F B221-B233 B235-B23B B23D-B257 B259-B25B B25D-B25F B261-B267 B26A-B273
       B276-B27B B27D-B283 B286-B288 B28A-B28E FFFD FFFD FFFD FFFD FFFD FFFD B28F B292-B293
       B295-B297 B29B-B29F B2A2 B2A4 B2A7-B2A9 B2AB B2AD-B2AF B2B1-B2B3 B2B5-B2B7 FFFD FFFD FFFD
       FFFD FFFD FFFD B2B8-B2C7 B2CA-B2CB B2CD-B2CF B2D1 B2D3-B2D7 B2DA B2DC B2DE-B2E1 B2E3 B2E7
       B2E9-B2EA B2F0-B2F2 B2F6 B2FC-B2FE B302-B303 B305-B307 B309-B30F B312 B316-B31B B31D-B353
       B357 B359-B35A B35D B360-B363 B366 B368 B36A B36C-B36D B36F B372-B373 B375-B377 B379-B37F
       B382 B386-B38B B38D FFFD FFFD FFFD FFFD FFFD FFFD B38E-B38F B391-B393 B395-B39F B3A2-B3A7
       B3A9-B3AB B3AD FFFD FFFD FFFD FFFD FFFD FFFD B3AE-B3C3 B3C6-B3C7 B3C9-B3CA B3CD B3CF
       B3D1-B3D3 B3D6 B3D8 B3DA B3DC B3DE-B3DF B3E1-B3E3 B3E5-B3E7 B3E9-B3FB B3FD-B40F B411-B417
       B419-B41B B41D-B41F B421-B427 B42A B42C-B433 B435-B44F B452-B453 B455-B457 B459-B45F B462
       B464 B466 FFFD FFFD FFFD FFFD FFFD FFFD B467-B46B B46D-B47F B481-B482 FFFD FFFD FFFD FFFD
       FFFD FFFD B483-B487 B489-B49C B49E-B4A3 B4A5-B4A7 B4A9-B4AB B4AD-B4B4 B4B6 B4B8 B4BA-B4BF
       B4C1-B4C3 B4C5-B4C7 B4C9-B4CF B4D1-B4D4 B4D6-B4DB B4DE-B4DF B4E1-B4E2 B4E5 B4E7-B4EB B4EE
       B4F0 B4F2-B4F7 B4F9-B513 B516-B517 B519-B51A B51D-B523 B526 B52B-B52F B532-B533 B535-B537
       B539-B53F B542 B546 FFFD FFFD FFFD FFFD FFFD FFFD B547-B54A B54E-B54F B551-B553 B555-B55B
       B55E B562-B56A FFFD FFFD FFFD FFFD FFFD FFFD B56B-B59F B5A2-B5A3 B5A5-B5A7 B5A9 B5AC-B5AF
       B5B2 B5B6-B5BA B5BE-B5BF B5C1-B5C3 B5C5-B5CB B5CE B5D2-B5D7 B5D9-B5EB B5ED-B60F B612-B613
       B615-B617 B619-B61D FFFD FFFD FFFD FFFD FFFD FFFD B61E-B624 B626-B62B B62D-B633 B635-B63A
       FFFD FFFD FFFD FFFD FFFD FFFD B63B-B647 B649-B663 B665-B667 B669-B69B B69E-B69F B6A1-B6A3
       B6A5-B6AA B6AD-B6B0 B6B2-B6D3 B6D5-B6DD FFFD FFFD FFFD FFFD FFFD FFFD B6DE-B6EF B6F1-B6F3
       B6F5-B6F7 B6F9-B6FA FFFD FFFD FFFD FFFD FFFD FFFD B6FB-B6FF B702-B704 B706-B727 B72A-B72B
       B72D-B72E B731-B737 B73A B73C-B743 B745-B747 B749-B74B B74D-B753 B756-B75F B761-B763
       B765-B767 B769-B76F B772 B774 B776-B77B B77E-B77F B781-B783 B785-B78B B78E B793-B795
       B79A-B79B B79D-B79F B7A1-B7A7 B7AA B7AE-B7B3 B7B6-B7B7 B7B9-B7C1 FFFD FFFD FFFD FFFD FFFD
       FFFD B7C2-B7C6 B7C8 B7CA-B7DD FFFD FFFD FFFD FFFD FFFD FFFD B7DE-B7EB B7EE-B7EF B7F1-B7F3
       B7F5-B7FB B7FE B802-B806 B80A-B80B B80D-B80F B811-B817 B81A B81C B81E-B823 B826-B827
       B829-B82B B82D-B833 B836 B83A-B83F B841-B843 B845-B850 B852 B854-B85B B85E-B85F B861-B863
       B865-B86B B86E B870 B872-B877 B879-B87B B87D-B88C B88E-B89F FFFD FFFD FFFD FFFD FFFD FFFD
       B8A0-B8A7 B8A9-B8AF B8B1-B8B3 B8B5-B8B7 B8B9-B8BD FFFD FFFD FFFD FFFD FFFD FFFD B8BE-B8BF
       B8C2 B8C4 B8C6-B8CB B8CD-B8CF B8D1-B8D3 B8D5-B8DC B8DE B8E0 B8E2-B8E7 B8EA-B8EB B8ED-B8EF
       B8F1-B8F7 B8FA B8FC B8FE-B903 B905-B917 B919-B91F B921-B93B B93E-B93F B941-B943 B945-B94B
       B94D-B94E B950 B952-B957 B95A-B95B B95D-B95F B961-B967 B96A B96C B96E-B973 B976-B977
       B979-B97B B97D FFFD FFFD FFFD FFFD FFFD FFFD B97E-B983 B986 B988 B98B-B98C B98F-B99E FFFD
       FFFD FFFD FFFD FFFD FFFD B99F-B9AB B9AE-B9AF B9B1-B9B3 B9B5-B9BB B9BE B9C0 B9C2-B9C7
       B9CA-B9CB B9CD B9D3-B9D7 B9DA B9DC B9DF-B9E0 B9E2 B9E6-B9E7 B9E9-B9EB B9ED-B9F3 B9F6
       B9FB-B9FF BA02-BA07 BA09-BA14 BA16-BA37 BA3A-BA3B BA3D-BA3F BA41 BA43-BA47 BA4A BA4C
       BA4F-BA52 BA56-BA57 BA59-BA5B BA5D-BA63 BA66 BA6A-BA6F FFFD FFFD FFFD FFFD FFFD FFFD
       BA72-BA73 BA75-BA77 BA79-BA82 BA86 BA88-BA8B BA8D-BA92 FFFD FFFD FFFD FFFD FFFD FFFD
       BA93-BAA7 BAAA BAAD-BAAF BAB1 BAB3-BAB7 BABA BABC BABE-BAC3 BAC5-BAC7 BAC9-BAD7 BADA-BAFB
       BAFD-BAFF BB01-BB03 BB05-BB0C BB0E BB10 BB12-BB17 BB19-BB1B BB1D-BB1F BB21-BB28 BB2A
       BB2C-BB33 BB37 BB39-BB3A BB3F-BB43 BB46 BB48 BB4A-BB4C BB4E BB51-BB52 FFFD FFFD FFFD FFFD
       FFFD FFFD BB53 BB55-BB57 BB59-BB60 BB62 BB64-BB6B BB6D-BB71 FFFD FFFD FFFD FFFD FFFD FFFD
       BB72-BB87 BB89-BB8B BB8D-BB8F BB91-BBA3 BBA5-BBA7 BBA9-BBAB BBAD-BBB3 BBB5-BBB6 BBB8-BBBF
       BBC1-BBC3 BBC5-BBC7 BBC9-BBCF BBD1-BBD2 BBD4-BBF7 BBFA-BBFB BBFD-BBFE BC01 BC03-BC07 BC0A
       BC0E BC10 BC12-BC13 BC19-BC1A BC20-BC23 BC26 BC28 BC2A-BC2C BC2E-BC2F BC32-BC33 BC35 FFFD
       FFFD FFFD FFFD FFFD FFFD BC36-BC37 BC39-BC3F BC42 BC46-BC48 BC4A-BC4B BC4E-BC4F BC51-BC59
       FFFD FFFD FFFD FFFD FFFD FFFD BC5A-BC5C BC5E-BC83 BC86-BC87 BC89-BC8A BC8D BC8F-BC93 BC96
       BC98 BC9B-BC9F BCA2-BCA3 BCA5-BCA6 BCA9-BCAF BCB2 BCB6-BCBB BCBE-BCBF BCC1-BCC3 BCC5-BCCC
       BCCE BCD2-BCD4 BCD6-BCD7 BCD9-BCDB BCDD-BCF3 BCF7 BCF9-BCFB BCFD-BD03 BD06 BD08 BD0A-BD0F
       BD11-BD13 BD15-BD1D FFFD FFFD FFFD FFFD FFFD FFFD BD1E-BD23 BD25-BD2B BD2D-BD39 FFFD FFFD
       FFFD FFFD FFFD FFFD BD3A-BD3F BD41-BD47 BD4A-BD4B BD4D-BD4F BD51-BD57 BD5A-BD63 BD65-BD67
       BD69-BD7F BD82-BD83 BD85-BD86 BD8B-BD8F BD92 BD94 BD96-BD98 BD9B BD9D-BDA3 BDA5-BDAF
       BDB1-BDB7 BDB9-BDD3 BDD6-BDD7 BDD9-BDDB BDDD-BDE8 BDEA-BDEF BDF1 FFFD FFFD FFFD FFFD FFFD
       FFFD BDF2-BDF3 BDF5-BDF7 BDF9-BDFF BE01-BE02 BE04 BE06-BE0B BE0E-BE0F BE11-BE13 FFFD FFFD
       FFFD FFFD FFFD FFFD BE15-BE1B BE1E BE20-BE43 BE46-BE47 BE49-BE4B BE4D BE4F-BE53 BE56 BE58
       BE5C-BE5F BE62-BE63 BE65-BE67 BE69 BE6B-BE6F BE72 BE76-BE7A BE7E-BE7F BE81-BE83 BE85-BE8B
       BE8E BE92-BE97 BE9A-BEA7 BEA9-BECF BED2-BED3 FFFD FFFD FFFD FFFD FFFD FFFD BED5-BED6
       BED9-BEDF BEE1-BEE2 BEE6-BEEB BEED-BEF5 FFFD FFFD FFFD FFFD FFFD FFFD BEF6-BF00 BF02-BF07
       BF0A-BF17 BF1A BF1E-BF3F BF42-BF43 BF45-BF47 BF49-BF4F BF52-BF54 BF56-BF93 BF95-BF9D FFFD
       FFFD FFFD FFFD FFFD FFFD BF9E-BFAF BFB1-BFB8 FFFD FFFD FFFD FFFD FFFD FFFD BFB9-BFC4
       BFC6-BFCB BFCE-BFCF BFD1-BFD3 BFD5-BFDB BFDD-BFDE BFE0 BFE2-C03B C03D-C050 C052-C057
       C059-C05B FFFD FFFD FFFD FFFD FFFD FFFD C05D-C05F C061-C067 C06A-C079 FFFD FFFD FFFD FFFD
       FFFD FFFD C07A-C08F C092-C093 C095-C097 C099-C09F C0A2 C0A4 C0A6-C0AB C0AE C0B1-C0B2
       C0B7-C0BB C0BE C0C2-C0C4 C0C6-C0C7 C0CA-C0CB C0CD-C0CF C0D1-C0D7 C0DA C0DE-C0E3 C0E6-C0E7
       C0E9-C0EB C0ED-C0F3 C0F6 C0F8 C0FA-C0FF C101-C103 C105-C107 C109-C10F C111-C114 C116-C11B
       C121-C122 C125 C128-C12B C12E C132-C135 C137 C13A-C13B C13D-C13F C141-C147 C14A C14E-C153
       C156-C157 FFFD FFFD FFFD FFFD FFFD FFFD C159-C15B C15D-C163 C166 C16A-C16F C171-C173
       C175-C177 C179-C17B FFFD FFFD FFFD FFFD FFFD FFFD C17C-C184 C186-C18B C18F C191-C193 C195
       C197-C19B C19E C1A0 C1A2-C1A4 C1A6-C1A7 C1AA-C1AB C1AD-C1AF C1B1-C1BC C1BE-C1C3 C1C5-C1C7
       C1C9-C1CB C1CD-C1D3 C1D5-C1D6 C1D9-C1DF C1E1-C1E3 C1E5-C1E7 C1E9-C1EF C1F2 C1F4-C1FB
       C1FE-C1FF C201-C203 C205-C20B C20E C210 C212-C217 C21A-C21B C21D-C21E C221-C227 C22A C22C
       C22E C230 C233 C235-C245 FFFD FFFD FFFD FFFD FFFD FFFD C246-C247 C249-C24F C252-C253
       C255-C257 C259-C25F C261-C264 C266 FFFD FFFD FFFD FFFD FFFD FFFD C267-C26B C26E-C26F
       C271-C273 C275-C27B C27E C280 C282-C287 C28A-C28F C291-C297 C299-C29A C29C C29E-C2A3
       C2A6-C2A7 C2A9-C2AB C2AE-C2B3 C2B6 C2B8 C2BA-C2DB C2DE-C2DF C2E1-C2E2 C2E5-C2EA C2EE C2F0
       C2F2-C2F5 C2F7 C2FA C2FD-C2FF C301-C307 C30A-C30B C30E-C312 C316-C317 C319-C31B C31D-C323
       C326-C327 C32A-C332 FFFD FFFD FFFD FFFD FFFD FFFD C333-C344 C346-C34D FFFD FFFD FFFD FFFD
       FFFD FFFD C34E-C367 C36A-C36B C36D-C36F C371 C373-C377 C37A-C37B C37E-C383 C385-C387
       C389-C38B C38D-C3BF C3C1-C3D7 C3DA-C3DB C3DD-C3DE C3E1 C3E3-C3E7 C3EA-C3EC C3EE-C3F3
       C3F6-C3F7 C3F9-C3FE FFFD FFFD FFFD FFFD FFFD FFFD C3FF-C407 C409-C40F C411-C41A FFFD FFFD
       FFFD FFFD FFFD FFFD C41B-C423 C425-C42B C42D-C42F C431-C433 C435-C43B C43E-C447 C449-C463
       C466-C467 C469-C46B C46D-C473 C476-C478 C47A-C47F C481-C493 C495-C49B C49D-C4B7 C4B9-C4BB
       C4BD-C4C5 FFFD FFFD FFFD FFFD FFFD FFFD C4C6-C4DF FFFD FFFD FFFD FFFD FFFD FFFD C4E0-C4E8
       C4EA-C4EF C4F2-C4F3 C4F5-C4F7 C4F9 C4FB-C4FE C502-C50B C50D-C50F C511-C513 C515-C51B
       C51D-C527 C52A-C52B C52D-C52F C531-C537 C53A C53C C53E-C543 C546-C547 C54B C54F-C552 C556
       C55A-C55C C55F C562-C563 C565-C567 C569-C56F C572 C576-C57B C57E-C57F C581-C583 C585-C586
       C588-C58B C58E C590 C592-C594 C596 C599-C59B C59D-C59F C5A1-C5A8 C5AA-C5B3 C5B6 FFFD FFFD
       FFFD FFFD FFFD FFFD C5B7 C5BA C5BF-C5C3 C5CB C5CD C5CF C5D2-C5D3 C5D5-C5D7 C5D9-C5DF C5E2
       C5E4 C5E6-C5E7 FFFD FFFD FFFD FFFD FFFD FFFD C5E8-C5EB C5EF C5F1-C5F3 C5F5 C5F8-C5FB
       C602-C604 C609-C60B C60D-C60F C611-C617 C61A C61D-C623 C626-C627 C629-C62B C62F C631-C632
       C636 C638 C63A C63C-C63F C642-C643 C645-C647 C649-C64F C652 C656-C65B C65E-C65F C661-C66B
       C66D-C66E C670 C672-C677 C67A-C67B C67D-C67F C681-C687 C68A C68C C68E-C693 C696-C697
       C699-C69B C69D-C6A3 C6A6 C6A8 C6AA-C6AF C6B2-C6B3 C6B5-C6B7 C6BB-C6BF C6C2 C6C4 C6C6-C6CB
       C6CE FFFD FFFD FFFD FFFD FFFD FFFD C6CF C6D1-C6D3 C6D5-C6DB C6DE-C6DF C6E2-C6E7 C6EA-C6EB
       C6ED-C6EF C6F1-C6F2 FFFD FFFD FFFD FFFD FFFD FFFD C6F3-C6F7 C6FA-C6FC C6FE-C703 C706-C707
       C709-C70B C70D-C713 C716 C718 C71A-C71F C722-C723 C725-C727 C729-C72F C732 C734 C736
       C738-C73B C73E-C73F C741-C743 C745-C749 C74B C74E C750 C759-C75B C75D-C75F C761-C767
       C769-C76A C76C-C773 C776-C777 C779-C77B C77F-C782 C786 C78B-C78D C78F C792-C793 C795 C799
       C79B-C79F C7A2 C7A7-C7AB C7AE-C7AF C7B1-C7B3 C7B5-C7BB C7BE C7C2-C7C7 C7CA-C7CB C7CD C7CF
       C7D1-C7D7 C7D9-C7DC FFFD FFFD FFFD FFFD FFFD FFFD C7DE-C7E3 C7E5-C7E7 C7E9-C7EB C7ED-C7FA
       FFFD FFFD FFFD FFFD FFFD FFFD C7FB-C7FF C802-C803 C805-C807 C809 C80B-C80F C812 C814
       C817-C81B C81E-C81F C821-C823 C825-C82B C82E C830 C832-C837 C839-C83B C83D-C83F C841-C847
       C84A-C84B C84E-C853 C855-C86F C872-C873 C875-C877 C879 C87B-C87F C882 C884 C888-C88A
       C88E-C893 C895-C89C C89E C8A0 C8A2-C8A7 C8A9-C8BB C8BE-C8C1 FFFD FFFD FFFD FFFD FFFD FFFD
       C8C2-C8C3 C8C5-C8C7 C8C9-C8CB C8CD-C8D3 C8D6 C8D8 C8DA-C8DF C8E2-C8E3 C8E5 FFFD FFFD FFFD
       FFFD FFFD FFFD C8E6-C8F4 C8F6-C8FB C8FE-C8FF C901-C903 C907-C90B C90E 3000-3002 B7
       2025-2026 A8 3003 AD 2015 2225 FF3C 223C 2018-2019 201C-201D 3014-3015 3008-3011 B1 D7 F7
       2260 2264-2265 221E 2234 B0 2032-2033 2103 212B FFE0-FFE1 FFE5 2642 2640 2220 22A5 2312
       2202 2207 2261 2252 A7 203B 2606 2605 25CB 25CF 25CE 25C7 25C6 25A1 25A0 25B3 25B2 25BD
       25BC 2192 2190-2191 2193-2194 3013 226A-226B 221A 223D 221D 2235 222B-222C 2208 220B
       2286-2287 2282-2283 222A 2229 2227-2228 FFE2 C910 C912-C917 C919-C92B FFFD FFFD FFFD FFFD
       FFFD FFFD C92D-C933 C935-C947 FFFD FFFD FFFD FFFD FFFD FFFD C948-C94F C952-C953 C955-C957
       C959-C95F C962 C964-C96B C96D-C96F 21D2 21D4 2200 2203 B4 FF5E 2C7 2D8 2DD 2DA 2D9 B8 2DB
       A1 BF 2D0 222E 2211 220F A4 2109 2030 25C1 25C0 25B7 25B6 2664 2660-2661 2665 2667 2663
       2299 25C8 25A3 25D0-25D1 2592 25A4-25A5 25A8 25A7 25A6 25A9 2668 260F 260E 261C 261E B6
       2020-2021 2195 2197 2199 2196 2198 266D 2669-266A 266C 327F 321C 2116 33C7 2122 33C2 33D8
       2121 20AC AE"),
   (6460,
      "C971-C973 C975-C97B C97D-C987 C98A-C98B C98D-C98F FFFD FFFD FFFD FFFD FFFD FFFD C991-C997
       C99A C99C C99E-C9AE FFFD FFFD FFFD FFFD FFFD FFFD C9AF-C9BF C9C2-C9C3 C9C5-C9C6 C9C9
       C9CB-C9CF C9D2 C9D4 C9D7-C9D8 C9DB FF01-FF3B FFE6 FF3D-FF5D FFE3 C9DE-C9DF C9E1 C9E3
       C9E5-C9E6 C9E8-C9EB C9EE C9F2-C9F7 C9FA-C9FB C9FD-C9FF CA01-CA04 FFFD FFFD FFFD FFFD FFFD
       FFFD CA05-CA07 CA0A CA0E-CA13 CA15-CA17 CA19-CA25 FFFD FFFD FFFD FFFD FFFD FFFD CA26-CA28
       CA2A-CA46 3131-318E CA47-CA4B CA4E-CA4F CA51-CA53 CA55-CA5B CA5E CA62-CA67 CA69-CA6A FFFD
       FFFD FFFD FFFD FFFD FFFD CA6B-CA7C CA7E-CA83 CA85-CA86 FFFD FFFD FFFD FFFD FFFD FFFD
       CA87-CA97 CA99-CAA7 2170-2179 FFFD FFFD FFFD FFFD FFFD 2160-2169 FFFD FFFD FFFD FFFD FFFD
       FFFD FFFD 391-3A1 3A3-3A9"),
   (7000,
      "3B1-3C1 3C3-3C9 FFFD FFFD FFFD FFFD FFFD FFFD CAA8-CABB CABE-CABF CAC1-CAC3 CAC5 FFFD FFFD
       FFFD FFFD FFFD FFFD CAC6-CACB CACE CAD0 CAD2 CAD4-CAD7 CADA-CADF CAE1-CAE7 FFFD FFFD FFFD
       FFFD FFFD FFFD CAE8-CAEB CAED-CAF3 CAF5-CB07 CB09-CB0A 2500 2502 250C 2510 2518 2514 251C
       252C 2524 2534 253C 2501 2503 250F 2513 251B 2517 2523 2533 252B 253B 254B 2520 252F 2528
       2537 253F 251D 2530 2525 2538 2542 2512 2511 251A 2519 2516 2515 250E 250D 251E-251F
       2521-2522 2526-2527 2529-252A 252D-252E 2531-2532 2535-2536 2539-253A 253D-253E 2540-2541
       2543-254A"),
   (7220,
      "CB0B-CB0F CB11-CB13 CB15-CB17 CB19-CB1F CB22-CB29 FFFD FFFD FFFD FFFD FFFD FFFD CB2A-CB40
       CB42-CB44 FFFD FFFD FFFD FFFD FFFD FFFD CB45-CB47 CB4A-CB4B CB4D-CB4F CB51-CB57 CB5A-CB5C
       CB5E-CB63 CB65-CB6C 3395-3397 2113 3398 33C4 33A3-33A6 3399-33A2 33CA 338D-338F 33CF
       3388-3389 33C8 33A7-33A8 33B0-33B9 3380-3384 33BA-33BF 3390-3394 2126 33C0-33C1 338A-338C
       33D6 33C5 33AD-33AF 33DB 33A9-33AC 33DD 33D0 33D3 33C3 33C9 33DC 33C6"),
   (7410,
      "CB6D-CB77 CB7A-CB88 FFFD FFFD FFFD FFFD FFFD FFFD CB89-CB9B CB9D-CBA3 FFFD FFFD FFFD FFFD
       FFFD FFFD CBA4-CBB7 CBB9-CBC4 C6 D0 AA 126 FFFD 132 FFFD 13F 141 D8 152 BA DE 166 14A FFFD
       3260-327B 24D0-24E9 2460-246E BD 2153-2154 BC BE 215B-215E CBC5-CBD3 CBD5-CBDF FFFD FFFD
       FFFD FFFD FFFD FFFD CBE0-CBE3 CBE5-CBE6 CBE8 CBEA-CBFC FFFD FFFD FFFD FFFD FFFD FFFD
       CBFD-CC0B CC0E-CC0F CC11-CC13 CC15-CC1B CC1E-CC20 CC23-CC24 E6 111 F0 127 131 133 138 140
       142 F8 153 DF FE 167 14B 149 3200-321B 249C-24B5 2474-2482 B9 B2-B3 2074 207F 2081-2084
       CC25-CC26 CC2A-CC2B CC2D CC2F CC31-CC37 CC3A CC3F-CC43 CC46-CC47 CC49-CC4B CC4D-CC4E FFFD
       FFFD FFFD FFFD FFFD FFFD CC4F-CC53 CC56 CC5A-CC5F CC61-CC63 CC65 CC67 CC69-CC6F CC71-CC72
       FFFD FFFD FFFD FFFD FFFD FFFD CC73-CC74 CC76-CC93 3041-3093"),
   (7980,
      "CC94-CC97 CC9A-CC9B CC9D-CC9F CCA1-CCA7 CCAA CCAE-CCB3 CCB6-CCB7 CCB9 FFFD FFFD FFFD FFFD
       FFFD FFFD CCBA-CCBB CCBD-CCC3 CCC6 CCC8 CCCA-CCCF CCD1-CCD3 CCD5-CCDA FFFD FFFD FFFD FFFD
       FFFD FFFD CCDB-CCE3 CCE5-CCEB CCED-CCEF CCF1-CCFD 30A1-30F6"),
   (8170,
      "CCFE-CD00 CD02-CD07 CD0A-CD0B CD0D-CD0F CD11-CD17 CD1A CD1C CD1E-CD20 FFFD FFFD FFFD FFFD
       FFFD FFFD CD21-CD23 CD25-CD27 CD29-CD2B CD2D-CD38 CD3A-CD3E FFFD FFFD FFFD FFFD FFFD FFFD
       CD3F-CD5B CD5D-CD5F 410-415 401 416-42F"),
   (8314,
      "430-435 451 436-44F"),
   (8360,
      "CD61-CD63 CD65-CD6B CD6E CD70 CD72-CD77 CD79-CD80 FFFD FFFD FFFD FFFD FFFD FFFD CD81-CD87
       CD89-CD93 CD96-CD97 CD99-CD9B CD9D-CD9F FFFD FFFD FFFD FFFD FFFD FFFD CDA0-CDA3 CDA6 CDA8
       CDAA-CDAF CDB1-CDC3 CDC5"),
   (8550,
      "CDC6-CDCB CDCD-CDCF CDD1-CDE1 FFFD FFFD FFFD FFFD FFFD FFFD CDE2-CDE7 CDE9-CDEB CDED-CDEF
       CDF1-CDF7 CDFA CDFC CDFE-CE02 FFFD FFFD FFFD FFFD FFFD FFFD CE03 CE05-CE07 CE09-CE0B
       CE0D-CE13 CE15-CE18 CE1A-CE1F CE22-CE23 CE25-CE27 CE29-CE2B"),
   (8740,
      "CE2C-CE2F CE32 CE34 CE36-CE49 FFFD FFFD FFFD FFFD FFFD FFFD CE4A-CE57 CE5A-CE5B CE5D-CE5E
       CE62-CE67 CE6A CE6C FFFD FFFD FFFD FFFD FFFD FFFD CE6E-CE73 CE76-CE77 CE79-CE7B CE7D-CE83
       CE86 CE88 CE8A-CE8F CE92-CE93 CE95-CE97 CE99"),
   (8930,
      "CE9A-CE9F CEA2 CEA6-CEAB CEAE-CEBA FFFD FFFD FFFD FFFD FFFD FFFD CEBB-CEC0 CEC2-CED5 FFFD
       FFFD FFFD FFFD FFFD FFFD CED6-CEE3 CEE6-CEE7 CEE9-CEEA CEED-CEF3 CEF6 CEFA-CEFF AC00-AC01
       AC04 AC07-AC0A AC10-AC17 AC19-AC1D AC20 AC24 AC2C-AC2D AC2F-AC31 AC38-AC39 AC3C AC40 AC4B
       AC4D AC54 AC58 AC5C AC70-AC71 AC74 AC77-AC78 AC7A AC80-AC81 AC83-AC86 AC89-AC8C AC90 AC94
       AC9C-AC9D AC9F-ACA1 ACA8-ACAA ACAC ACAF-ACB0 ACB8-ACB9 ACBB-ACBD ACC1 ACC4 ACC8 ACCC ACD5
       ACD7 ACE0-ACE1 ACE4 ACE7-ACE8 ACEA ACEC ACEF-ACF1 ACF3 ACF5-ACF6 ACFC-ACFD AD00 AD04 AD06
       CF02-CF03 CF05-CF07 CF09-CF0F CF12 CF14 CF16-CF1B CF1D-CF1F CF21-CF23 FFFD FFFD FFFD FFFD
       FFFD FFFD CF25-CF2B CF2E CF32-CF37 CF39-CF44 FFFD FFFD FFFD FFFD FFFD FFFD CF45-CF53
       CF56-CF57 CF59-CF5B CF5D-CF63 CF66 CF68 CF6A-CF6C AD0C-AD0D AD0F AD11 AD18 AD1C AD20 AD29
       AD2C-AD2D AD34-AD35 AD38 AD3C AD44-AD45 AD47 AD49 AD50 AD54 AD58 AD61 AD63 AD6C-AD6D AD70
       AD73-AD76 AD7B-AD7D AD7F AD81-AD82 AD88-AD89 AD8C AD90 AD9C-AD9D ADA4 ADB7 ADC0-ADC1 ADC4
       ADC8 ADD0-ADD1 ADD3 ADDC ADE0 ADE4 ADF8-ADF9 ADFC ADFF-AE01 AE08-AE09 AE0B AE0D AE14
       AE30-AE31 AE34 AE37-AE38 AE3A AE40-AE41 AE43 AE45-AE46 AE4A AE4C-AE4E AE50 AE54 AE56
       AE5C-AE5D AE5F-AE61 AE65 AE68-AE69 AE6C AE70 AE78 CF6D-CF6F CF72-CF73 CF75-CF77 CF79-CF7F
       CF81-CF84 CF86-CF8B CF8D FFFD FFFD FFFD FFFD FFFD FFFD CF8E-CFA0 CFA2-CFA7 CFA9 FFFD FFFD
       FFFD FFFD FFFD FFFD CFAA-CFAF CFB1-CFC3 CFC5-CFCB AE79 AE7B-AE7D AE84-AE85 AE8C AEBC-AEBE
       AEC0 AEC4 AECC-AECD AECF-AED1 AED8-AED9 AEDC AEE8 AEEB AEED AEF4 AEF8 AEFC AF07-AF08 AF0D
       AF10 AF2C-AF2D AF30 AF32 AF34 AF3C-AF3D AF3F AF41-AF43 AF48-AF49 AF50 AF5C-AF5D AF64-AF65
       AF79 AF80 AF84 AF88 AF90-AF91 AF95 AF9C AFB8-AFB9 AFBC AFC0 AFC7-AFC9 AFCB AFCD-AFCE AFD4
       AFDC AFE8-AFE9 AFF0-AFF1 AFF4 AFF8 B000-B001 B004 B00C B010 B014 B01C-B01D B028 B044-B045
       B048 B04A B04C B04E B053-B055 B057 B059 CFCC-CFDF CFE2-CFE3 CFE5-CFE7 CFE9 FFFD FFFD FFFD
       FFFD FFFD FFFD CFEA-CFEF CFF2 CFF4 CFF6-CFFB CFFD-CFFF D001-D003 D005-D00A FFFD FFFD FFFD
       FFFD FFFD FFFD D00B-D010 D012-D017 D019-D02C B05D B07C-B07D B080 B084 B08C-B08D B08F B091
       B098-B09A B09C B09F-B0A2 B0A8-B0A9 B0AB-B0AF B0B1 B0B3-B0B5 B0B8 B0BC B0C4-B0C5 B0C7-B0C9
       B0D0-B0D1 B0D4 B0D8 B0E0 B0E5 B108-B109 B10B-B10C B110 B112-B113 B118-B119 B11B-B11D
       B123-B125 B128 B12C B134-B135 B137-B139 B140-B141 B144 B148 B150-B151 B154-B155 B158 B15C
       B160 B178-B179 B17C B180 B182 B188-B189 B18B B18D B192-B194 B198 B19C B1A8 B1CC B1D0 B1D4
       B1DC-B1DD D02E-D033 D036-D037 D039-D03B D03D-D043 D046 D048 D04A-D04F FFFD FFFD FFFD FFFD
       FFFD FFFD D051-D053 D055-D057 D059-D05F D061-D06B D06E-D06F FFFD FFFD FFFD FFFD FFFD FFFD
       D071-D073 D075-D07B D07E-D080 D082-D094 B1DF B1E8-B1E9 B1EC B1F0 B1F9 B1FB B1FD B204-B205
       B208 B20B-B20C B214-B215 B217 B219 B220 B234 B23C B258 B25C B260 B268-B269 B274-B275 B27C
       B284-B285 B289 B290-B291 B294 B298-B29A B2A0-B2A1 B2A3 B2A5-B2A6 B2AA B2AC B2B0 B2B4
       B2C8-B2C9 B2CC B2D0 B2D2 B2D8-B2D9 B2DB B2DD B2E2 B2E4-B2E6 B2E8 B2EB-B2EF B2F3-B2F5
       B2F7-B2FB B2FF-B301 B304 B308 B310-B311 B313-B315 B31C B354-B356 B358 B35B-B35C B35E-B35F
       B364-B365 D095-D0A3 D0A6-D0A7 D0A9-D0AB D0AD-D0B2 FFFD FFFD FFFD FFFD FFFD FFFD D0B3 D0B6
       D0B8 D0BA-D0BF D0C2-D0C3 D0C5-D0C7 D0CA-D0CF D0D2 D0D6-D0DA FFFD FFFD FFFD FFFD FFFD FFFD
       D0DB D0DE-D0DF D0E1-D0E3 D0E5-D0EB D0EE D0F2-D0F7 D0F9-D104 B367 B369 B36B B36E B370-B371
       B374 B378 B380-B381 B383-B385 B38C B390 B394 B3A0-B3A1 B3A8 B3AC B3C4-B3C5 B3C8 B3CB-B3CC
       B3CE B3D0 B3D4-B3D5 B3D7 B3D9 B3DB B3DD B3E0 B3E4 B3E8 B3FC B410 B418 B41C B420 B428-B429
       B42B B434 B450-B451 B454 B458 B460-B461 B463 B465 B46C B480 B488 B49D B4A4 B4A8 B4AC B4B5
       B4B7 B4B9 B4C0 B4C4 B4C8 B4D0 B4D5 B4DC-B4DD B4E0 B4E3-B4E4 B4E6 B4EC-B4ED B4EF B4F1 B4F8
       B514-B515 B518 B51B-B51C B524-B525 B527-B52A B530-B531 B534 B538 D105-D10C D10E-D11F FFFD
       FFFD FFFD FFFD FFFD FFFD D120-D12F D132-D133 D135-D137 D139 D13B-D13E FFFD FFFD FFFD FFFD
       FFFD FFFD D13F D142 D146-D14B D14E-D14F D151-D153 D155-D15B D15E D160 D162-D167 D169-D16B
       D16D B540-B541 B543-B545 B54B-B54D B550 B554 B55C-B55D B55F-B561 B5A0-B5A1 B5A4 B5A8
       B5AA-B5AB B5B0-B5B1 B5B3-B5B5 B5BB-B5BD B5C0 B5C4 B5CC-B5CD B5CF-B5D1 B5D8 B5EC B610-B611
       B614 B618 B625 B62C B634 B648 B664 B668 B69C-B69D B6A0 B6A4 B6AB-B6AC B6B1 B6D4 B6F0 B6F4
       B6F8 B700-B701 B705 B728-B729 B72C B72F-B730 B738-B739 B73B B744 B748 B74C B754-B755 B760
       B764 B768 B770-B771 B773 B775 B77C-B77D B780 B784 B78C-B78D B78F-B792 B796-B797 D16E-D17B
       D17D-D183 D185-D187 D189-D18A FFFD FFFD FFFD FFFD FFFD FFFD D18B-D19F D1A2-D1A3 D1A5-D1A7
       FFFD FFFD FFFD FFFD FFFD FFFD D1A9-D1AF D1B2 D1B4 D1B6-D1B9 D1BB D1BD-D1BF D1C1-D1CF
       B798-B799 B79C B7A0 B7A8-B7A9 B7AB-B7AD B7B4-B7B5 B7B8 B7C7 B7C9 B7EC-B7ED B7F0 B7F4
       B7FC-B7FD B7FF-B801 B807-B809 B80C B810 B818-B819 B81B B81D B824-B825 B828 B82C B834-B835
       B837-B839 B840 B844 B851 B853 B85C-B85D B860 B864 B86C-B86D B86F B871 B878 B87C B88D B8A8
       B8B0 B8B4 B8B8 B8C0-B8C1 B8C3 B8C5 B8CC B8D0 B8D4 B8DD B8DF B8E1 B8E8-B8E9 B8EC B8F0
       B8F8-B8F9 B8FB B8FD B904 B918 B920 B93C-B93D B940 B944 B94C B94F B951 B958-B959 B95C B960
       B968-B969 D1D0-D1D7 D1D9-D1EA FFFD FFFD FFFD FFFD FFFD FFFD D1EB-D1F3 D1F5-D1F7 D1F9-D206
       FFFD FFFD FFFD FFFD FFFD FFFD D208 D20A-D20F D211-D229 B96B B96D B974-B975 B978 B97C
       B984-B985 B987 B989-B98A B98D-B98E B9AC-B9AD B9B0 B9B4 B9BC-B9BD B9BF B9C1 B9C8-B9C9 B9CC
       B9CE-B9D2 B9D8-B9D9 B9DB B9DD-B9DE B9E1 B9E3-B9E5 B9E8 B9EC B9F4-B9F5 B9F7-B9FA BA00-BA01
       BA08 BA15 BA38-BA39 BA3C BA40 BA42 BA48-BA49 BA4B BA4D-BA4E BA53-BA55 BA58 BA5C BA64-BA65
       BA67-BA69 BA70-BA71 BA74 BA78 BA83-BA85 BA87 BA8C BAA8-BAA9 BAAB-BAAC BAB0 BAB2 BAB8-BAB9
       BABB BABD BAC4 BAC8 BAD8-BAD9 BAFC D22A-D22B D22E-D22F D231-D233 D235-D23B D23E D240
       D242-D247 D249-D24C FFFD FFFD FFFD FFFD FFFD FFFD D24D-D25B D25D-D263 D265-D268 FFFD FFFD
       FFFD FFFD FFFD FFFD D269-D27F D282-D283 D285-D287 D289-D28C BB00 BB04 BB0D BB0F BB11 BB18
       BB1C BB20 BB29 BB2B BB34-BB36 BB38 BB3B-BB3E BB44-BB45 BB47 BB49 BB4D BB4F-BB50 BB54 BB58
       BB61 BB63 BB6C BB88 BB8C BB90 BBA4 BBA8 BBAC BBB4 BBB7 BBC0 BBC4 BBC8 BBD0 BBD3 BBF8-BBF9
       BBFC BBFF-BC00 BC02 BC08-BC09 BC0B-BC0D BC0F BC11 BC14-BC18 BC1B-BC1F BC24-BC25 BC27 BC29
       BC2D BC30-BC31 BC34 BC38 BC40-BC41 BC43-BC45 BC49 BC4C-BC4D BC50 BC5D BC84-BC85 BC88
       BC8B-BC8C BC8E BC94-BC95 BC97 D28D-D28F D292-D294 D296-D29B D29D-D29F D2A1-D2A3 D2A5-D2AB
       D2AD FFFD FFFD FFFD FFFD FFFD FFFD D2AE-D2B0 D2B2-D2B7 D2BA-D2BB D2BD-D2BE D2C1 D2C3-D2C7
       D2CA D2CC-D2D1 FFFD FFFD FFFD FFFD FFFD FFFD D2D2-D2D3 D2D5-D2D7 D2D9-D2DB D2DD-D2E3
       D2E6-D2EF D2F2-D2F3 D2F5-D2F7 D2F9-D2FA BC99-BC9A BCA0-BCA1 BCA4 BCA7-BCA8 BCB0-BCB1
       BCB3-BCB5 BCBC-BCBD BCC0 BCC4 BCCD BCCF-BCD1 BCD5 BCD8 BCDC BCF4-BCF6 BCF8 BCFC BD04-BD05
       BD07 BD09 BD10 BD14 BD24 BD2C BD40 BD48-BD49 BD4C BD50 BD58-BD59 BD64 BD68 BD80-BD81 BD84
       BD87-BD8A BD90-BD91 BD93 BD95 BD99-BD9A BD9C BDA4 BDB0 BDB8 BDD4-BDD5 BDD8 BDDC BDE9 BDF0
       BDF4 BDF8 BE00 BE03 BE05 BE0C-BE0D BE10 BE14 BE1C-BE1D BE1F BE44-BE45 BE48 BE4C BE4E
       BE54-BE55 BE57 BE59-BE5B BE60-BE61 BE64 D2FB-D2FF D302 D304 D306-D30B D30F D311-D313 D315
       D317-D31B D31E D322-D323 FFFD FFFD FFFD FFFD FFFD FFFD D324 D326-D327 D32A-D32B D32D-D32F
       D331-D337 D33A D33E-D343 D346-D349 FFFD FFFD FFFD FFFD FFFD FFFD D34A-D369 BE68 BE6A
       BE70-BE71 BE73-BE75 BE7B-BE7D BE80 BE84 BE8C-BE8D BE8F-BE91 BE98-BE99 BEA8 BED0-BED1 BED4
       BED7-BED8 BEE0 BEE3-BEE5 BEEC BF01 BF08-BF09 BF18-BF19 BF1B-BF1D BF40-BF41 BF44 BF48
       BF50-BF51 BF55 BF94 BFB0 BFC5 BFCC-BFCD BFD0 BFD4 BFDC BFDF BFE1 C03C C051 C058 C05C C060
       C068-C069 C090-C091 C094 C098 C0A0-C0A1 C0A3 C0A5 C0AC-C0AD C0AF-C0B0 C0B3-C0B6 C0BC-C0BD
       C0BF-C0C1 C0C5 C0C8-C0C9 C0CC C0D0 C0D8-C0D9 C0DB-C0DD C0E4 D36A-D37B D37E-D37F D381-D383
       D385-D387 FFFD FFFD FFFD FFFD FFFD FFFD D388-D38B D38E D392-D397 D39A-D39B D39D-D39F
       D3A1-D3A7 D3AA D3AC D3AE FFFD FFFD FFFD FFFD FFFD FFFD D3AF-D3B3 D3B5-D3B7 D3B9-D3BB
       D3BD-D3C3 D3C6-D3C7 D3CA-D3CF D3D1-D3D6 C0E5 C0E8 C0EC C0F4-C0F5 C0F7 C0F9 C100 C104 C108
       C110 C115 C11C-C120 C123-C124 C126-C127 C12C-C12D C12F-C131 C136 C138-C139 C13C C140
       C148-C149 C14B-C14D C154-C155 C158 C15C C164-C165 C167-C169 C170 C174 C178 C185 C18C-C18E
       C190 C194 C196 C19C-C19D C19F C1A1 C1A5 C1A8-C1A9 C1AC C1B0 C1BD C1C4 C1C8 C1CC C1D4
       C1D7-C1D8 C1E0 C1E4 C1E8 C1F0-C1F1 C1F3 C1FC-C1FD C200 C204 C20C-C20D C20F C211 C218-C219
       C21C C21F-C220 C228-C229 C22B C22D D3D7 D3D9-D3E0 D3E2 D3E4-D3EB D3EE-D3EF D3F1-D3F3
       D3F5-D3F7 FFFD FFFD FFFD FFFD FFFD FFFD D3F8-D3FB D3FE D400 D402-D407 D409-D416 FFFD FFFD
       FFFD FFFD FFFD FFFD D417-D41C D41E-D437 C22F C231-C232 C234 C248 C250-C251 C254 C258 C260
       C265 C26C-C26D C270 C274 C27C-C27D C27F C281 C288-C289 C290 C298 C29B C29D C2A4-C2A5 C2A8
       C2AC-C2AD C2B4-C2B5 C2B7 C2B9 C2DC-C2DD C2E0 C2E3-C2E4 C2EB-C2ED C2EF C2F1 C2F6 C2F8-C2F9
       C2FB-C2FC C300 C308-C309 C30C-C30D C313-C315 C318 C31C C324-C325 C328-C329 C345 C368-C369
       C36C C370 C372 C378-C379 C37C-C37D C384 C388 C38C C3C0 C3D8-C3D9 C3DC C3DF-C3E0 C3E2
       C3E8-C3E9 C3ED C3F4-C3F5 C3F8 C408 C410 C424 C42C C430 D438-D43F D441-D443 D445-D453 FFFD
       FFFD FFFD FFFD FFFD FFFD D454-D45B D45D-D45F D461-D463 D465-D46C D46E D470-D472 FFFD FFFD
       FFFD FFFD FFFD FFFD D473-D477 D47A-D47B D47D-D47E D481 D483-D487 D48A D48C D48E-D493
       D495-D49D C434 C43C-C43D C448 C464-C465 C468 C46C C474-C475 C479 C480 C494 C49C C4B8 C4BC
       C4E9 C4F0-C4F1 C4F4 C4F8 C4FA C4FF-C501 C50C C510 C514 C51C C528-C529 C52C C530 C538-C539
       C53B C53D C544-C545 C548-C54A C54C-C54E C553-C555 C557-C559 C55D-C55E C560-C561 C564 C568
       C570-C571 C573-C575 C57C-C57D C580 C584 C587 C58C-C58D C58F C591 C595 C597-C598 C59C C5A0
       C5A9 C5B4-C5B5 C5B8-C5B9 C5BB-C5BE C5C4-C5CA C5CC C5CE D49E-D4A8 D4AA-D4B8 FFFD FFFD FFFD
       FFFD FFFD FFFD D4B9-D4CB D4CD-D4CF D4D1-D4D3 D4D5 FFFD FFFD FFFD FFFD FFFD FFFD D4D6-D4DB
       D4DD-D4DE D4E0-D4E7 D4E9-D4EB D4ED-D4EF D4F1-D4F7 D4F9-D4FA D4FC C5D0-C5D1 C5D4 C5D8
       C5E0-C5E1 C5E3 C5E5 C5EC-C5EE C5F0 C5F4 C5F6-C5F7 C5FC-C601 C605-C608 C60C C610 C618-C619
       C61B-C61C C624-C625 C628 C62C-C62E C630 C633-C635 C637 C639 C63B C640-C641 C644 C648
       C650-C651 C653-C655 C65C-C65D C660 C66C C66F C671 C678-C679 C67C C680 C688-C689 C68B C68D
       C694-C695 C698 C69C C6A4-C6A5 C6A7 C6A9 C6B0-C6B1 C6B4 C6B8-C6BA C6C0-C6C1 C6C3 C6C5
       C6CC-C6CD C6D0 C6D4 C6DC-C6DD C6E0-C6E1 C6E8 D4FE-D503 D505-D507 D509-D50B D50D-D513 D516
       D518-D51D FFFD FFFD FFFD FFFD FFFD FFFD D51E-D537 FFFD FFFD FFFD FFFD FFFD FFFD D538-D53B
       D53E-D53F D541-D543 D545-D54B D54E D550 D552-D557 D55A-D55B D55D-D55F D561-D563 C6E9 C6EC
       C6F0 C6F8-C6F9 C6FD C704-C705 C708 C70C C714-C715 C717 C719 C720-C721 C724 C728 C730-C731
       C733 C735 C737 C73C-C73D C740 C744 C74A C74C-C74D C74F C751-C758 C75C C760 C768 C76B
       C774-C775 C778 C77C-C77E C783-C785 C787-C78A C78E C790-C791 C794 C796-C798 C79A C7A0-C7A1
       C7A3-C7A6 C7AC-C7AD C7B0 C7B4 C7BC-C7BD C7BF-C7C1 C7C8-C7C9 C7CC C7CE C7D0 C7D8 C7DD C7E4
       C7E8 C7EC C800-C801 C804 C808 C80A D564 D566-D567 D56A D56C D56E-D573 D576-D577 D579-D57B
       D57D-D583 D586 D58A-D58B FFFD FFFD FFFD FFFD FFFD FFFD D58C-D58F D591-D5A4 D5A6-D5A7 FFFD
       FFFD FFFD FFFD FFFD FFFD D5A8-D5C7 C810-C811 C813 C815-C816 C81C-C81D C820 C824 C82C-C82D
       C82F C831 C838 C83C C840 C848-C849 C84C-C84D C854 C870-C871 C874 C878 C87A C880-C881 C883
       C885-C887 C88B-C88D C894 C89D C89F C8A1 C8A8 C8BC-C8BD C8C4 C8C8 C8CC C8D4-C8D5 C8D7 C8D9
       C8E0-C8E1 C8E4 C8F5 C8FC-C8FD C900 C904-C906 C90C-C90D C90F C911 C918 C92C C934 C950-C951
       C954 C958 C960-C961 C963 C96C C970 C974 C97C C988-C989 C98C C990 C998-C999 C99B C99D
       C9C0-C9C1 C9C4 C9C7-C9C8 C9CA C9D0-C9D1 C9D3 D5CA-D5CB D5CD-D5CF D5D1 D5D3-D5D7 D5DA D5DC
       D5DE-D5E3 D5E6-D5E7 D5E9-D5EB D5ED-D5EE FFFD FFFD FFFD FFFD FFFD FFFD D5EF-D5F3 D5F6 D5F8
       D5FA-D5FF D602-D603 D605-D607 D609-D60F D612 FFFD FFFD FFFD FFFD FFFD FFFD D616-D61B
       D61D-D61F D621-D623 D625-D62C D62E-D637 D63A-D63B C9D5-C9D6 C9D9-C9DA C9DC-C9DD C9E0 C9E2
       C9E4 C9E7 C9EC-C9ED C9EF-C9F1 C9F8-C9F9 C9FC CA00 CA08-CA09 CA0B-CA0D CA14 CA18 CA29
       CA4C-CA4D CA50 CA54 CA5C-CA5D CA5F-CA61 CA68 CA7D CA84 CA98 CABC-CABD CAC0 CAC4 CACC-CACD
       CACF CAD1 CAD3 CAD8-CAD9 CAE0 CAEC CAF4 CB08 CB10 CB14 CB18 CB20-CB21 CB41 CB48-CB49 CB4C
       CB50 CB58-CB59 CB5D CB64 CB78-CB79 CB9C CBB8 CBD4 CBE4 CBE7 CBE9 CC0C-CC0D CC10 CC14
       CC1C-CC1D CC21-CC22 CC27-CC29 CC2C CC2E CC30 CC38-CC39 CC3B D63D-D63F D641-D644 D646-D647
       D64A D64C D64E-D650 D652-D653 D656-D657 D659-D65B D65D-D661 FFFD FFFD FFFD FFFD FFFD FFFD
       D662-D666 D668 D66A-D66F D672-D673 D675-D680 FFFD FFFD FFFD FFFD FFFD FFFD D681-D682 D684
       D686-D68B D68E-D68F D691-D693 D695-D69C D69E D6A0 D6A2-D6A7 D6A9-D6AA CC3C-CC3E CC44-CC45
       CC48 CC4C CC54-CC55 CC57-CC59 CC60 CC64 CC66 CC68 CC70 CC75 CC98-CC99 CC9C CCA0 CCA8-CCA9
       CCAB-CCAD CCB4-CCB5 CCB8 CCBC CCC4-CCC5 CCC7 CCC9 CCD0 CCD4 CCE4 CCEC CCF0 CD01 CD08-CD09
       CD0C CD10 CD18-CD19 CD1B CD1D CD24 CD28 CD2C CD39 CD5C CD60 CD64 CD6C-CD6D CD6F CD71 CD78
       CD88 CD94-CD95 CD98 CD9C CDA4-CDA5 CDA7 CDA9 CDB0 CDC4 CDCC CDD0 CDE8 CDEC CDF0 CDF8-CDF9
       CDFB CDFD CE04 CE08 CE0C CE14 CE19 CE20-CE21 CE24 CE28 CE30-CE31 CE33 CE35 D6AB D6AD-D6AF
       D6B1-D6B8 D6BA D6BC-D6C3 D6C6-D6C7 D6C9-D6CB FFFD FFFD FFFD FFFD FFFD FFFD D6CD-D6D0
       D6D2-D6D3 D6D5-D6D6 D6D8 D6DA-D6DF D6E1-D6E3 D6E5-D6E7 D6E9-D6ED FFFD FFFD FFFD FFFD FFFD
       FFFD D6EE-D6EF D6F1-D6F4 D6F6-D6FB D6FE-D6FF D701-D703 D705-D710 D712-D714 CE58-CE59 CE5C
       CE5F-CE61 CE68-CE69 CE6B CE6D CE74-CE75 CE78 CE7C CE84-CE85 CE87 CE89 CE90-CE91 CE94 CE98
       CEA0-CEA1 CEA3-CEA5 CEAC-CEAD CEC1 CEE4-CEE5 CEE8 CEEB-CEEC CEF4-CEF5 CEF7-CEF9 CF00-CF01
       CF04 CF08 CF10-CF11 CF13 CF15 CF1C CF20 CF24 CF2C-CF2D CF2F-CF31 CF38 CF54-CF55 CF58 CF5C
       CF64-CF65 CF67 CF69 CF70-CF71 CF74 CF78 CF80 CF85 CF8C CFA1 CFA8 CFB0 CFC4 CFE0-CFE1 CFE4
       CFE8 CFF0-CFF1 CFF3 CFF5 CFFC D000 D004 D011 D018 D02D D034-D035 D038 D03C D715-D717
       D71A-D71B D71D-D71F D721-D727 D72A D72C D72E-D733 D736-D737 D739 FFFD FFFD FFFD FFFD FFFD
       FFFD D73A-D73B D73D-D743 D745-D746 D748 D74A-D74F D752-D753 D755 D75A-D75E FFFD FFFD FFFD
       FFFD FFFD FFFD D75F D762 D764 D766-D768 D76A-D76B D76D-D76F D771-D773 D775-D77B D77E-D780
       D782-D787 D78A-D78B D044-D045 D047 D049 D050 D054 D058 D060 D06C-D06D D070 D074 D07C-D07D
       D081 D0A4-D0A5 D0A8 D0AC D0B4-D0B5 D0B7 D0B9 D0C0-D0C1 D0C4 D0C8-D0C9 D0D0-D0D1 D0D3-D0D5
       D0DC-D0DD D0E0 D0E4 D0EC-D0ED D0EF-D0F1 D0F8 D10D D130-D131 D134 D138 D13A D140-D141
       D143-D145 D14C-D14D D150 D154 D15C-D15D D15F D161 D168 D16C D17C D184 D188 D1A0-D1A1 D1A4
       D1A8 D1B0-D1B1 D1B3 D1B5 D1BA D1BC D1C0 D1D8 D1F4 D1F8 D207 D209 D210 D22C-D22D D230 D234
       D23C-D23D D23F D241 D248 D25C D78D-D78F D791-D797 D79A D79C D79E-D7A3"),
   (13206,
      "D264 D280-D281 D284 D288 D290-D291 D295 D29C D2A0 D2A4 D2AC D2B1 D2B8-D2B9 D2BC D2BF-D2C0
       D2C2 D2C8-D2C9 D2CB D2D4 D2D8 D2DC D2E4-D2E5 D2F0-D2F1 D2F4 D2F8 D300-D301 D303 D305
       D30C-D30E D310 D314 D316 D31C-D31D D31F-D321 D325 D328-D329 D32C D330 D338-D339 D33B-D33D
       D344-D345 D37C-D37D D380 D384 D38C-D38D D38F-D391 D398-D399 D39C D3A0 D3A8-D3A9 D3AB D3AD
       D3B4 D3B8 D3BC D3C4-D3C5 D3C8-D3C9 D3D0 D3D8 D3E1 D3E3 D3EC-D3ED D3F0 D3F4 D3FC-D3FD D3FF
       D401"),
   (13396,
      "D408 D41D D440 D444 D45C D460 D464 D46D D46F D478-D479 D47C D47F-D480 D482 D488-D489 D48B
       D48D D494 D4A9 D4CC D4D0 D4D4 D4DC D4DF D4E8 D4EC D4F0 D4F8 D4FB D4FD D504 D508 D50C
       D514-D515 D517 D53C-D53D D540 D544 D54C-D54D D54F D551 D558-D559 D55C D560 D565 D568-D569
       D56B D56D D574-D575 D578 D57C D584-D585 D587-D589 D590 D5A5 D5C8-D5C9 D5CC D5D0 D5D2
       D5D8-D5D9 D5DB D5DD D5E4-D5E5 D5E8 D5EC D5F4-D5F5 D5F7 D5F9 D600-D601 D604 D608 D610-D611
       D613-D615 D61C D620"),
   (13586,
      "D624 D62D D638-D639 D63C D640 D645 D648-D649 D64B D64D D651 D654-D655 D658 D65C D667 D669
       D670-D671 D674 D683 D685 D68C-D68D D690 D694 D69D D69F D6A1 D6A8 D6AC D6B0 D6B9 D6BB
       D6C4-D6C5 D6C8 D6CC D6D1 D6D4 D6D7 D6D9 D6E0 D6E4 D6E8 D6F0 D6F5 D6FC-D6FD D700 D704 D711
       D718-D719 D71C D720 D728-D729 D72B D72D D734-D735 D738 D73C D744 D747 D749 D750-D751 D754
       D756-D759 D760-D761 D763 D765 D769 D76C D770 D774 D77C-D77D D781 D788-D789 D78C D790
       D798-D799 D79B D79D"),
   (13966,
      "4F3D 4F73 5047 50F9 52A0 53EF 5475 54E5 5609 5AC1 5BB6 6687 67B6-67B7 67EF 6B4C 73C2 75C2
       7A3C 82DB 8304 8857 8888 8A36 8CC8 8DCF 8EFB 8FE6 99D5 523B 5374 5404 606A 6164 6BBC 73CF
       811A 89BA 89D2 95A3 4F83 520A 58BE 5978 59E6 5E72 5E79 61C7 63C0 6746 67EC 687F 6F97 764E
       770B 78F5 7A08 7AFF 7C21 809D 826E 8271 8AEB 9593 4E6B 559D 66F7 6E34 78A3 7AED 845B 8910
       874E 97A8 52D8 574E 582A 5D4C 611F 61BE 6221 6562 67D1 6A44 6E1B 7518 75B3 76E3 77B0 7D3A
       90AF 9451-9452 9F95"),
   (14156,
      "5323 5CAC 7532 80DB 9240 9598 525B 5808 59DC 5CA1 5D17 5EB7 5F3A 5F4A 6177 6C5F 757A 7586
       7CE0 7D73 7DB1 7F8C 8154 8221 8591 8941 8B1B 92FC 964D 9C47 4ECB 4EF7 500B 51F1 584F 6137
       613E 6168 6539 69EA 6F11 75A5 7686 76D6 7B87 82A5 84CB F900 93A7 958B 5580 5BA2 5751 F901
       7CB3 7FB9 91B5 5028 53BB 5C45 5DE8 62D2 636E 64DA 64E7 6E20 70AC 795B 8DDD 8E1E F902 907D
       9245 92F8 4E7E 4EF6 5065 5DFE 5EFA 6106 6957 8171 8654 8E47 9375 9A2B 4E5E 5091 6770 6840
       5109 528D 5292 6AA2"),
   (14346,
      "77BC 9210 9ED4 52AB 602F 8FF2 5048 61A9 63ED 64CA 683C 6A84 6FC0 8188 89A1 9694 5805 727D
       72AC 7504 7D79 7E6D 80A9 898B 8B74 9063 9D51 6289 6C7A 6F54 7D50 7F3A 8A23 517C 614A 7B9D
       8B19 9257 938C 4EAC 4FD3 501E 50BE 5106 52C1 52CD 537F 5770 5883 5E9A 5F91 6176 61AC 64CE
       656C 666F 66BB 66F4 6897 6D87 7085 70F1 749F 74A5 74CA 75D9 786C 78EC 7ADF 7AF6 7D45 7D93
       8015 803F 811B 8396 8B66 8F15 9015 93E1 9803 9838 9A5A 9BE8 4FC2 5553 583A 5951 5B63 5C46
       60B8 6212 6842 68B0"),
   (14536,
      "68E8 6EAA 754C 7678 78CE 7A3D 7CFB 7E6B 7E7C 8A08 8AA1 8C3F 968E 9DC4 53E4 53E9 544A 5471
       56FA 59D1 5B64 5C3B 5EAB 62F7 6537 6545 6572 66A0 67AF 69C1 6CBD 75FC 7690 777E 7A3F 7F94
       8003 80A1 818F 82E6 82FD 83F0 85C1 8831 88B4 8AA5 F903 8F9C 932E 96C7 9867 9AD8 9F13 54ED
       659B 66F2 688F 7A40 8C37 9D60 56F0 5764 5D11 6606 68B1 68CD 6EFE 7428 889E 9BE4 6C68 F904
       9AA8 4F9B 516C 5171 529F 5B54 5DE5 6050 606D 62F1 63A7 653B 73D9 7A7A 86A3 8CA2 978F 4E32
       5BE1 6208 679C 74DC"),
   (14726,
      "79D1 83D3 8A87 8AB2 8DE8 904E 934B 9846 5ED3 69E8 85FF 90ED F905 51A0 5B98 5BEC 6163 68FA
       6B3E 704C 742F 74D8 7BA1 7F50 83C5 89C0 8CAB 95DC 9928 522E 605D 62EC 9002 4F8A 5149 5321
       58D9 5EE3 66E0 6D38 709A 72C2 73D6 7B50 80F1 945B 5366 639B 7F6B 4E56 5080 584A 58DE 602A
       6127 62D0 69D0 9B41 5B8F 7D18 80B1 8F5F 4EA4 50D1 54AC 55AC 5B0C 5DA0 5DE7 652A 654E 6821
       6A4B 72E1 768E 77EF 7D5E 7FF9 81A0 854E 86DF 8F03 8F4E 90CA 9903 9A55 9BAB 4E18 4E45 4E5D
       4EC7 4FF1 5177 52FE"),
   (14916,
      "5340 53E3 53E5 548E 5614 5775 57A2 5BC7 5D87 5ED0 61FC 62D8 6551 67B8 67E9 69CB 6B50 6BC6
       6BEC 6C42 6E9D 7078 72D7 7396 7403 77BF 77E9 7A76 7D7F 8009 81FC 8205 820A 82DF 8862 8B33
       8CFC 8EC0 9011 90B1 9264 92B6 99D2 9A45 9CE9 9DD7 9F9C 570B 5C40 83CA 97A0 97AB 9EB4 541B
       7A98 7FA4 88D9 8ECD 90E1 5800 5C48 6398 7A9F 5BAE 5F13 7A79 7AAE 828E 8EAC 5026 5238 52F8
       5377 5708 62F3 6372 6B0A 6DC3 7737 53A5 7357 8568 8E76 95D5 673A 6AC3 6F70 8A6D 8ECC 994B
       F906 6677 6B78 8CB4"),
   (15106,
      "9B3C F907 53EB 572D 594E 63C6 69FB 73EA 7845 7ABA 7AC5 7CFE 8475 898F 8D73 9035 95A8 52FB
       5747 7547 7B60 83CC 921E F908 6A58 514B 524B 5287 621F 68D8 6975 9699 50C5 52A4 52E4 61C3
       65A4 6839 69FF 747E 7B4B 82B9 83EB 89B2 8B39 8FD1 9949 F909 4ECA 5997 64D2 6611 6A8E 7434
       7981 79BD 82A9 887E-887F 895F F90A 9326 4F0B 53CA 6025 6271 6C72 7D1A 7D66 4E98 5162 77DC
       80AF 4F01 4F0E 5176 5180 55DC 5668 573B 57FA 57FC 5914 5947 5993 5BC4 5C90 5D0E 5DF1 5E7E
       5FCC 6280 65D7 65E3"),
   (15296,
      "671E-671F 675E 68CB 68C4 6A5F 6B3A 6C23 6C7D 6C82 6DC7 7398 7426 742A 7482 74A3 7578 757F
       7881 78EF 7941 7947-7948 797A 7B95 7D00 7DBA 7F88 8006 802D 808C 8A18 8B4F 8C48 8D77 9321
       9324 98E2 9951 9A0E-9A0F 9A65 9E92 7DCA 4F76 5409 62EE 6854 91D1 55AB 513A F90B-F90C 5A1C
       61E6 F90D 62CF 62FF F90E-F913 90A3 F914-F918 8AFE F919-F91C 6696 F91D 7156 F91E-F91F 96E3
       F920 634F 637A 5357 F921 678F 6960 6E73 F922 7537 F923-F925"),
   (15486,
      "7D0D F926-F927 8872 56CA 5A18 F928-F92C 4E43 F92D 5167 5948 67F0 8010 F92E 5973 5E74 649A
       79CA 5FF5 606C 62C8 637B 5BE7 5BD7 52AA F92F 5974 5F29 6012 F930-F932 7459 F933-F938 99D1
       F939-F943 6FC3 F944-F945 81BF 8FB2 60F1 F946-F947 8166 F948-F949 5C3F F94A-F951 5AE9 8A25
       677B 7D10 F952-F957 80FD F958-F959 5C3C 6CE5 533F 6EBA 591A 8336"),
   (15676,
      "4E39 4EB6 4F46 55AE 5718 58C7 5F56 65B7 65E6 6A80 6BB5 6E4D 77ED 7AEF 7C1E 7DDE 86CB 8892
       9132 935B 64BB 6FBE 737A 75B8 9054 5556 574D 61BA 64D4 66C7 6DE1 6E5B 6F6D 6FB9 75F0 8043
       81BD 8541 8983 8AC7 8B5A 931F 6C93 7553 7B54 8E0F 905D 5510 5802 5858 5E62 6207 649E 68E0
       7576 7CD6 87B3 9EE8 4EE3 5788 576E 5927 5C0D 5CB1 5E36 5F85 6234 64E1 73B3 81FA 888B 8CB8
       968A 9EDB 5B85 5FB7 60B3 5012 5200 5230 5716 5835 5857 5C0E 5C60 5CF6 5D8B 5EA6 5F92 60BC
       6311 6389 6417 6843"),
   (15866,
      "68F9 6AC2 6DD8 6E21 6ED4 6FE4 71FE 76DC 7779 79B1 7A3B 8404 89A9 8CED 8DF3 8E48 9003 9014
       9053 90FD 934D 9676 97DC 6BD2 7006 7258 72A2 7368 7763 79BF 7BE4 7E9B 8B80 58A9 60C7 6566
       65FD 66BE 6C8C 711E 71C9 8C5A 9813 4E6D 7A81 4EDD 51AC 51CD 52D5 540C 61A7 6771 6850 68DF
       6D1E 6F7C 75BC 77B3 7AE5 80F4 8463 9285 515C 6597 675C 6793 75D8 7AC7 8373 F95A 8C46 9017
       982D 5C6F 81C0 829A 9041 906F 920D 5F97 5D9D 6A59 71C8 767B 7B49 85E4 8B04 9127 9A30 5587
       61F6 F95B 7669 7F85"),
   (16056,
      "863F 87BA 88F8 908F F95C 6D1B 70D9 73DE 7D61 843D F95D 916A 99F1 F95E 4E82 5375 6B04 6B12
       703E 721B 862D 9E1E 524C 8FA3 5D50 64E5 652C 6B16 6FEB 7C43 7E9C 85CD 8964 89BD 62C9 81D8
       881F 5ECA 6717 6D6A 72FC 7405 746F 8782 90DE 4F86 5D0D 5FA0 840A 51B7 63A0 7565 4EAE 5006
       5169 51C9 6881 6A11 7CAE 7CB1 7CE7 826F 8AD2 8F1B 91CF 4FB6 5137 52F5 5442 5EEC 616E 623E
       65C5 6ADA 6FFE 792A 85DC 8823 95AD 9A62 9A6A 9E97 9ECE 529B 66C6 6B77 701D 792B 8F62 9742
       6190 6200 6523 6F23"),
   (16246,
      "7149 7489 7DF4 806F 84EE 8F26 9023 934A 51BD 5217 52A3 6D0C 70C8 88C2 5EC9 6582 6BAE 6FC2
       7C3E 7375 4EE4 4F36 56F9 F95F 5CBA 5DBA 601C 73B2 7B2D 7F9A 7FCE 8046 901E 9234 96F6 9748
       9818 9F61 4F8B 6FA7 79AE 91B4 96B7 52DE F960 6488 64C4 6AD3 6F5E 7018 7210 76E7 8001 8606
       865C 8DEF 8F05 9732 9B6F 9DFA 9E75 788C 797F 7DA0 83C9 9304 9E7F 9E93 8AD6 58DF 5F04 6727
       7027 74CF 7C60 807E 5121 7028 7262 78CA 8CC2 8CDA 8CF4 96F7 4E86 50DA 5BEE 5ED6 6599 71CE
       7642 77AD 804A 84FC"),
   (16436,
      "907C 9B27 9F8D 58D8 5A41 5C62 6A13 6DDA 6F0F 763B 7D2F 7E37 851E 8938 93E4 964B 5289 65D2
       67F3 69B4 6D41 6E9C 700F 7409 7460 7559 7624 786B 8B2C 985E 516D 622E 9678 4F96 502B 5D19
       6DEA 7DB8 8F2A 5F8B 6144 6817 F961 9686 52D2 808B 51DC 51CC 695E 7A1C 7DBE 83F1 9675 4FDA
       5229 5398 540F 550E 5C65 60A7 674E 68A8 6D6C 7281 72F8 7406 7483 F962 75E2 7C6C 7F79 7FB8
       8389 88CF 88E1 91CC 91D0 96E2 9BC9 541D 6F7E 71D0 7498 85FA 8EAA 96A3 9C57 9E9F 6797 6DCB
       7433 81E8 9716 782C"),
   (16626,
      "7ACB 7B20 7C92 6469 746A 75F2 78BC 78E8 99AC 9B54 9EBB 5BDE 5E55 6F20 819C 83AB 9088 4E07
       534D 5A29 5DD2 5F4E 6162 633D 6669 66FC 6EFF 6F2B 7063 779E 842C 8513 883B 8F13 9945 9C3B
       551C 62B9 672B 6CAB 8309 896A 977A 4EA1 5984 5FD8-5FD9 671B 7DB2 7F54 8292 832B 83BD 8F1E
       9099 57CB 59B9 5A92 5BD0 6627 679A 6885 6BCF 7164 7F75 8CB7 8CE3 9081 9B45 8108 8C8A 964C
       9A40 9EA5 5B5F 6C13 731B 76F2 76DF 840C 51AA 8993 514D 5195 52C9 68C9 6C94 7704 7720 7DBF
       7DEC 9762 9EB5 6EC5"),
   (16816,
      "8511 51A5 540D 547D 660E 669D 6927 6E9F 76BF 7791 8317 84C2 879F 9169 9298 9CF4 8882 4FAE
       5192 52DF 59C6 5E3D 6155 6478-6479 66AE 67D0 6A21 6BCD 6BDB 725F 7261 7441 7738 77DB 8017
       82BC 8305 8B00 8B28 8C8C 6728 6C90 7267 76EE 7766 7A46 9DA9 6B7F 6C92 5922 6726 8499 536F
       5893 5999 5EDF 63CF 6634 6773 6E3A 732B 7AD7 82D7 9328 52D9 5DEB 61AE 61CB 620A 62C7 64AB
       65E0 6959 6B66 6BCB 7121 73F7 755D 7E46 821E 8302 856A 8AA3 8CBF 9727 9D61 58A8 9ED8 5011
       520E 543B 554F 6587"),
   (17006,
      "6C76 7D0A-7D0B 805E 868A 9580 96EF 52FF 6C95 7269 5473 5A9A 5C3E 5D4B 5F4C 5FAE 672A 68B6
       6963 6E3C 6E44 7709 7C73 7F8E 8587 8B0E 8FF7 9761 9EF4 5CB7 60B6 610D 61AB 654F 65FB-65FC
       6C11 6CEF 739F 73C9 7DE1 9594 5BC6 871C 8B10 525D 535A 62CD 640F 64B2 6734 6A38 6CCA 73C0
       749E 7B94 7C95 7E1B 818A 8236 8584 8FEB 96F9 99C1 4F34 534A 53CD 53DB 62CC 642C 6500 6591
       69C3 6CEE 6F58 73ED 7554 7622 76E4 76FC 78D0 78FB 792C 7D46 822C 87E0 8FD4 9812 98EF 52C3
       62D4 64A5 6E24 6F51"),
   (17196,
      "767C 8DCB 91B1 9262 9AEE 9B43 5023 508D 574A 59A8 5C28 5E47 5F77 623F 653E 65B9 65C1 6609
       678B 699C 6EC2 78C5 7D21 80AA 8180 822B 82B3 84A1 868C 8A2A 8B17 90A6 9632 9F90 500D 4FF3
       F963 57F9 5F98 62DC 6392 676F 6E43 7119 76C3 80CC 80DA 88F4-88F5 8919 8CE0 8F29 914D 966A
       4F2F 4F70 5E1B 67CF 6822 767D-767E 9B44 5E61 6A0A 7169 71D4 756A F964 7E41 8543 85E9 98DC
       4F10 7B4F 7F70 95A5 51E1 5E06 68B5 6C3E 6C4E 6CDB 72AF 7BC4 8303 6CD5 743A 50FB 5288 58C1
       64D8 6A97 74A7 7656"),
   (17386,
      "78A7 8617 95E2 9739 F965 535E 5F01 8B8A 8FA8 8FAF 908A 5225 77A5 9C49 9F08 4E19 5002 5175
       5C5B 5E77 661E 663A 67C4 68C5 70B3 7501 75C5 79C9 7ADD 8F27 9920 9A08 4FDD 5821 5831 5BF6
       666E 6B65 6D11 6E7A 6F7D 73E4 752B 83E9 88DC 8913 8B5C 8F14 4F0F 50D5 5310 535C 5B93 5FA9
       670D 798F 8179 832F 8514 8907 8986 8F39 8F3B 99A5 9C12 672C 4E76 4FF8 5949 5C01 5CEF-5CF0
       6367 68D2 70FD 71A2 742B 7E2B 84EC 8702 9022 92D2 9CF3 4E0D 4ED8 4FEF 5085 5256 526F 5426
       5490 57E0 592B 5A66"),
   (17576,
      "5B5A 5B75 5BCC 5E9C F966 6276 6577 65A7 6D6E 6EA5 7236 7B26 7C3F 7F36 8150-8151 819A 8240
       8299 83A9 8A03 8CA0 8CE6 8CFB 8D74 8DBA 90E8 91DC 961C 9644 99D9 9CE7 5317 5206 5429 5674
       58B3 5954 596E 5FFF 61A4 626E 6610 6C7E 711A 76C6 7C89 7CDE 7D1B 82AC 8CC1 96F0 F967 4F5B
       5F17 5F7F 62C2 5D29 670B 68DA 787C 7E43 9D6C 4E15 5099 5315 532A 5351 5983 5A62 5E87 60B2
       618A 6249 6279 6590 6787 69A7 6BD4 6BD6-6BD8 6CB8 F968 7435 75FA 7812 7891 79D5 79D8 7C83
       7DCB 7FE1 80A5"),
   (17766,
      "813E 81C2 83F2 871A 88E8 8AB9 8B6C 8CBB 9119 975E 98DB 9F3B 56AC 5B2A 5F6C 658C 6AB3 6BAF
       6D5C 6FF1 7015 725D 73AD 8CA7 8CD3 983B 6191 6C37 8058 9A01 4E4D 4E8B 4E9B 4ED5 4F3A 4F3C
       4F7F 4FDF 50FF 53F2 53F8 5506 55E3 56DB 58EB 5962 5A11 5BEB 5BFA 5C04 5DF3 5E2B 5F99 601D
       6368 659C 65AF 67F6 67FB 68AD 6B7B 6C99 6CD7 6E23 7009 7345 7802 793E 7940 7960 79C1 7BE9
       7D17 7D72 8086 820D 838E 84D1 86C7 88DF 8A50 8A5E 8B1D 8CDC 8D66 8FAD 90AA 98FC 99DF 9E9D
       524A F969 6714 F96A"),
   (17956,
      "5098 522A 5C71 6563 6C55 73CA 7523 759D 7B97 849C 9178 9730 4E77 6492 6BBA 715E 85A9 4E09
       F96B 6749 68EE 6E17 829F 8518 886B 63F7 6F81 9212 98AF 4E0A 50B7 50CF 511F 5546 55AA 5617
       5B40 5C19 5CE0 5E38 5E8A 5EA0 5EC2 60F3 6851 6A61 6E58 723D 7240 72C0 76F8 7965 7BB1 7FD4
       88F3 89F4 8A73 8C61 8CDE 971C 585E 74BD 8CFD 55C7 F96C 7A61 7D22 8272 7272 751F 7525 F96D
       7B19 5885 58FB 5DBC 5E8F 5EB6 5F90 6055 6292 637F 654D 6691 66D9 66F8 6816 68F2 7280 745E
       7B6E 7D6E 7DD6 7F72"),
   (18146,
      "80E5 8212 85AF 897F 8A93 901D 92E4 9ECD 9F20 5915 596D 5E2D 60DC 6614 6673 6790 6C50 6DC5
       6F5F 77F3 78A9 84C6 91CB 932B 4ED9 50CA 5148 5584 5B0B 5BA3 6247 657E 65CB 6E32 717D 7401
       7444 7487 74BF 766C 79AA 7DDA 7E55 7FA8 817A 81B3 8239 861A 87EC 8A75 8DE3 9078 9291 9425
       994D 9BAE 5368 5C51 6954 6CC4 6D29 6E2B 820C 859B 893B 8A2D 8AAA 96EA 9F67 5261 66B9 6BB2
       7E96 87FE 8D0D 9583 965D 651D 6D89 71EE F96E 57CE 59D3 5BAC 6027 60FA 6210 661F 665F 7329
       73F9 76DB 7701 7B6C"),
   (18336,
      "8056 8072 8165 8AA0 9192 4E16 52E2 6B72 6D17 7A05 7B39 7D30 F96F 8CB0 53EC 562F 5851 5BB5
       5C0F 5C11 5DE2 6240 6383 6414 662D 68B3 6CBC 6D88 6EAF 701F 70A4 71D2 7526 758F 758E 7619
       7B11 7BE0 7C2B 7D20 7D39 852C 856D 8607 8A34 900D 9061 90B5 92B7 97F6 9A37 4FD7 5C6C 675F
       6D91 7C9F 7E8C 8B16 8D16 901F 5B6B 5DFD 640D 84C0 905C 98E1 7387 5B8B 609A 677E 6DDE 8A1F
       8AA6 9001 980C 5237 F970 7051 788E 9396 8870 91D7 4FEE 53D7 55FD 56DA 5782 58FD 5AC2 5B88
       5CAB 5CC0 5E25 6101"),
   (18526,
      "620D 624B 6388 641C 6536 6578 6A39 6B8A 6C34 6D19 6F31 71E7 72E9 7378 7407 74B2 7626 7761
       79C0 7A57 7AEA 7CB9 7D8F 7DAC 7E61 7F9E 8129 8331 8490 84DA 85EA 8896 8AB0 8B90 8F38 9042
       9083 916C 9296 92B9 968B 96A7-96A8 96D6 9700 9808 9996 9AD3 9B1A 53D4 587E 5919 5B70 5BBF
       6DD1 6F5A 719F 7421 74B9 8085 83FD 5DE1 5F87 5FAA 6042 65EC 6812 696F 6A53 6B89 6D35 6DF3
       73E3 76FE 77AC 7B4D 7D14 8123 821C 8340 84F4 8563 8A62 8AC4 9187 931E 9806 99B4 620C 8853
       8FF0 9265 5D07 5D27"),
   (18716,
      "5D69 745F 819D 8768 6FD5 62FE 7FD2 8936 8972 4E1E 4E58 50E7 52DD 5347 627F 6607 7E69 8805
       965E 4F8D 5319 5636 59CB 5AA4 5C38 5C4E 5C4D 5E02 5F11 6043 65BD 662F 6642 67BE 67F4 731C
       77E2 793A 7FC5 8494 84CD 8996 8A66 8A69 8AE1 8C55 8C7A 57F4 5BD4 5F0F 606F 62ED 690D 6B96
       6E5C 7184 7BD2 8755 8B58 8EFE 98DF 98FE 4F38 4F81 4FE1 547B 5A20 5BB8 613C 65B0 6668 71FC
       7533 795E 7D33 814E 81E3 8398 85AA 85CE 8703 8A0A 8EAB 8F9B F971 8FC5 5931 5BA4 5BE6 6089
       5BE9 5C0B 5FC3 6C81"),
   (18906,
      "F972 6DF1 700B 751A 82AF 8AF6 4EC0 5341 F973 96D9 6C0F 4E9E 4FC4 5152 555E 5A25 5CE8 6211
       7259 82BD 83AA 86FE 8859 8A1D 963F 96C5 9913 9D09 9D5D 580A 5CB3 5DBD 5E44 60E1 6115 63E1
       6A02 6E25 9102 9354 984E 9C10 9F77 5B89 5CB8 6309 664F 6848 773C 96C1 978D 9854 9B9F 65A1
       8B01 8ECB 95BC 5535 5CA9 5DD6 5EB5 6697 764C 83F4 95C7 58D3 62BC 72CE 9D28 4EF0 592E 600F
       663B 6B83 79E7 9D26 5393 54C0 57C3 5D16 611B 66D6 6DAF 788D 827E 9698 9744 5384 627C 6396
       6DB2 7E0A 814B 984D"),
   (19096,
      "6AFB 7F4C 9DAF 9E1A 4E5F 503B 51B6 591C 60F9 63F6 6930 723A 8036 F974 91CE 5F31 F975-F976
       7D04 82E5 846F 84BB 85E5 8E8D F977 4F6F F978-F979 58E4 5B43 6059 63DA 6518 656D 6698 F97A
       694A 6A23 6D0B 7001 716C 75D2 760D 79B3 7A70 F97B 7F8A F97C 8944 F97D 8B93 91C0 967D F97E
       990A 5704 5FA1 65BC 6F01 7600 79A6 8A9E 99AD 9B5A 9F6C 5104 61B6 6291 6A8D 81C6 5043 5830
       5F66 7109 8A00 8AFA 5B7C 8616 4FFA 513C 56B4 5944 63A9 6DF9 5DAA 696D 5186 4E88 4F59
       F97F-F981 5982 F982"),
   (19286,
      "F983 6B5F 6C5D F984 74B5 7916 F985 8207 8245 8339 8F3F 8F5D F986 9918 F987-F989 4EA6 F98A
       57DF 5F79 6613 F98B-F98C 75AB 7E79 8B6F F98D 9006 9A5B 56A5 5827 59F8 5A1F 5BB4 F98E 5EF6
       F98F-F990 6350 633B F991 693D 6C87 6CBF 6D8E 6D93 6DF5 6F14 F992 70DF 7136 7159 F993 71C3
       71D5 F994 784F 786F F995 7B75 7DE3 F996 7E2F F997 884D 8EDF F998-F99A 925B F99B 9CF6
       F99C-F99E 6085 6D85 F99F 71B1 F9A0-F9A1 95B1 53AD F9A2-F9A4 67D3 F9A5 708E 7130 7430 8276
       82D2"),
   (19476,
      "F9A6 95BB 9AE5 9E7D 66C4 F9A7 71C1 8449 F9A8-F9A9 584B F9AA-F9AB 5DB8 5F71 F9AC 6620 668E
       6979 69AE 6C38 6CF3 6E36 6F41 6FDA 701B 702F 7150 71DF 7370 F9AD 745B F9AE 74D4 76C8 7A4E
       7E93 F9AF-F9B0 82F1 8A60 8FCE F9B1 9348 F9B2 9719 F9B3-F9B4 4E42 502A F9B5 5208 53E1 66F3
       6C6D 6FCA 730A 777F 7A62 82AE 85DD 8602 F9B6 88D4 8A63 8B7D 8C6B F9B7 92B3 F9B8 9713 9810
       4E94 4F0D 4FC9 50B2 5348 543E 5433 55DA 5862 58BA 5967 5A1B 5BE4 609F F9B9 61CA 6556 65FF
       6664 68A7 6C5A 6FB3"),
   (19666,
      "70CF 71AC 7352 7B7D 8708 8AA4 9C32 9F07 5C4B 6C83 7344 7389 923A 6EAB 7465 761F 7A69 7E15
       860A 5140 58C5 64C1 74EE 7515 7670 7FC1 9095 96CD 9954 6E26 74E6 7AA9-7AAA 81E5 86D9 8778
       8A1B 5A49 5B8C 5B9B 68A1 6900 6D63 73A9 7413 742C 7897 7DE9 7FEB 8118 8155 839E 8C4C 962E
       9811 66F0 5F80 65FA 6789 6C6A 738B 502D 5A03 6B6A 77EE 5916 5D6C 5DCD 7325 754F F9BA-F9BB
       50E5 51F9 582F 592D 5996 59DA 5BE5 F9BC-F9BD 5DA2 62D7 6416 6493 64FE F9BE 66DC F9BF 6A48
       F9C0 71FF 7464 F9C1"),
   (19856,
      "7A88 7AAF 7E47 7E5E 8000 8170 F9C2 87EF 8981 8B20 9059 F9C3 9080 9952 617E 6B32 6D74 7E1F
       8925 8FB1 4FD1 50AD 5197 52C7 57C7 5889 5BB9 5EB8 6142 6995 6D8C 6E67 6EB6 7194 7462 7528
       752C 8073 8338 84C9 8E0A 9394 93DE F9C4 4E8E 4F51 5076 512A 53C8 53CB 53F3 5B87 5BD3 5C24
       611A 6182 65F4 725B 7397 7440 76C2 7950 7991 79B9 7D06 7FBD 828B 85D5 865E 8FC2 9047 90F5
       91EA 9685 96E8-96E9 52D6 5F67 65ED 6631 682F 715C 7A36 90C1 980A 4E91 F9C5 6A52 6B9E 6F90
       7189 8018 82B8 8553"),
   (20046,
      "904B 9695 96F2 97FB 851A 9B31 4E90 718A 96C4 5143 539F 54E1 5713 5712 57A3 5A9B 5AC4 5BC3
       6028 613F 63F4 6C85 6D39 6E72 6E90 7230 733F 7457 82D1 8881 8F45 9060 F9C6 9662 9858 9D1B
       6708 8D8A 925E 4F4D 5049 50DE 5371 570D 59D4 5A01 5C09 6170 6690 6E2D 7232 744B 7DEF 80C3
       840E 8466 853F 875F 885B 8918 8B02 9055 97CB 9B4F 4E73 4F91 5112 516A F9C7 552F 55A9 5B7A
       5BA5 5E7C-5E7D 5EBE 60A0 60DF 6108-6109 63C4 6538 6709 F9C8 67D4 67DA F9C9 6961-6962 6CB9
       6D27 F9CA 6E38 F9CB"),
   (20236,
      "6FE1 7336-7337 F9CC 745C 7531 F9CD 7652 F9CE-F9CF 7DAD 81FE 8438 88D5 8A98 8ADB 8AED 8E30
       8E42 904A 903E 907A 9149 91C9 936E F9D0-F9D1 5809 F9D2 6BD3 8089 80B2 F9D3-F9D4 5141 596B
       5C39 F9D5-F9D6 6F64 73A7 80E4 8D07 F9D7 9217 958F F9D8-F9DB 807F 620E 701C 7D68 878D F9DC
       57A0 6069 6147 6BB7 8ABE 9280 96B1 4E59 541F 6DEB 852D 9670 97F3 98EE 63D6 6CE3 9091 51DD
       61C9 81BA 9DF9 4F9D 501A 5100 5B9C 610F 61FF 64EC 6905 6BC5 7591 77E3 7FA9 8264 858F 87FB
       8863 8ABC"),
   (20426,
      "8B70 91AB 4E8C 4EE5 4F0A F9DD-F9DE 5937 59E8 F9DF 5DF2 5F1B 5F5B 6021 F9E0-F9E3 723E 73E5
       F9E4 7570 75CD F9E5 79FB F9E6 800C 8033 8084 82E1 8351 F9E7-F9E8 8CBD 8CB3 9087 F9E9-F9EA
       98F4 990C F9EB-F9EC 7037 76CA 7FCA 7FCC 7FFC 8B1A 4EBA 4EC1 5203 5370 F9ED 54BD 56E0 59FB
       5BC5 5F15 5FCD 6E6E F9EE-F9EF 7D6A 8335 F9F0 8693 8A8D F9F1 976D 9777 F9F2-F9F3 4E00 4F5A
       4F7E 58F9 65E5 6EA2 9038 93B0 99B9 4EFB 58EC 598A 59D9 6041 F9F4-F9F5 7A14 F9F6 834F 8CC3
       5165 5344"),
   (20616,
      "F9F7-F9F9 4ECD 5269 5B55 82BF 4ED4 523A 54A8 59C9 59FF 5B50 5B57 5B5C 6063 6148 6ECB 7099
       716E 7386 74F7 75B5 78C1 7D2B 8005 81EA 8328 8517 85C9 8AEE 8CC7 96CC 4F5C 52FA 56BC 65AB
       6628 707C 70B8 7235 7DBD 828D 914C 96C0 9D72 5B71 68E7 6B98 6F7A 76DE 5C91 66AB 6F5B 7BB4
       7C2A 8836 96DC 4E08 4ED7 5320 5834 58BB 58EF 596C 5C07 5E33 5E84 5F35 638C 66B2 6756 6A1F
       6AA3 6B0C 6F3F 7246 F9FA 7350 748B 7AE0 7CA7 8178 81DF 81E7 838A 846C 8523 8594 85CF 88DD
       8D13 91AC 9577"),
   (20806,
      "969C 518D 54C9 5728 5BB0 624D 6750 683D 6893 6E3D 6ED3 707D 7E21 88C1 8CA1 8F09 9F4B 9F4E
       722D 7B8F 8ACD 931A 4F47 4F4E 5132 5480 59D0 5E95 62B5 6775 696E 6A17 6CAE 6E1A 72D9 732A
       75BD 7BB8 7D35 82E7 83F9 8457 85F7 8A5B 8CAF 8E87 9019 90B8 96CE 9F5F 52E3 540A 5AE1 5BC2
       6458 6575 6EF4 72C4 F9FB 7684 7A4D 7B1B 7C4D 7E3E 7FDF 837B 8B2B 8CCA 8D64 8DE1 8E5F 8FEA
       8FF9 9069 93D1 4F43 4F7A 50B3 5168 5178 524D 526A 5861 587C 5960 5C08 5C55 5EDB 609B 6230
       6813 6BBF 6C08 6FB1"),
   (20996,
      "714E 7420 7530 7538 7551 7672 7B4C 7B8B 7BAD 7BC6 7E8F 8A6E 8F3E 8F49 923F 9293 9322 942B
       96FB 985A 986B 991E 5207 622A 6298 6D59 7664 7ACA 7BC0 7D76 5360 5CBE 5E97 6F38 70B9 7C98
       9711 9B8E 9EDE 63A5 647A 8776 4E01 4E95 4EAD 505C 5075 5448 59C3 5B9A 5E40 5EAD 5EF7 5F81
       60C5 633A 653F 6574 65CC 6676 6678 67FE 6968 6A89 6B63 6C40 6DC0 6DE8 6E1F 6E5E 701E 70A1
       738E 73FD 753A 775B 7887 798E 7A0B 7A7D 7CBE 7D8E 8247 8A02 8AEA 8C9E 912D 914A 91D8 9266
       92CC 9320 9706 9756"),
   (21186,
      "975C 9802 9F0E 5236 5291 557C 5824 5E1D 5F1F 608C 63D0 68AF 6FDF 796D 7B2C 81CD 85BA 88FD
       8AF8 8E44 918D 9664 969B 973D 984C 9F4A 4FCE 5146 51CB 52A9 5632 5F14 5F6B 63AA 64CD 65E9
       6641 66FA 66F9 671D 689D 68D7 69FD 6F15 6F6E 7167 71E5 722A 74AA 773A 7956 795A 79DF 7A20
       7A95 7C97 7CDF 7D44 7E70 8087 85FB 86A4 8A54 8ABF 8D99 8E81 9020 906D 91E3 963B 96D5 9CE5
       65CF 7C07 8DB3 93C3 5B58 5C0A 5352 62D9 731D 5027 5B97 5F9E 60B0 616B 68D5 6DD9 742E 7A2E
       7D42 7D9C 7E31 816B"),
   (21376,
      "8E2A 8E35 937E 9418 4F50 5750 5DE6 5EA7 632B 7F6A 4E3B 4F4F 4F8F 505A 59DD 80C4 546A 5468
       55FE 594F 5B99 5DDE 5EDA 665D 6731 67F1 682A 6CE8 6D32 6E4A 6F8D 70B7 73E0 7587 7C4C 7D02
       7D2C 7DA2 821F 86DB 8A3B 8A85 8D70 8E8A 8F33 9031 914E 9152 9444 99D0 7AF9 7CA5 4FCA 5101
       51C6 57C8 5BEF 5CFB 6659 6A3D 6D5A 6E96 6FEC 710C 756F 7AE3 8822 9021 9075 96CB 99FF 8301
       4E2D 4EF2 8846 91CD 537D 6ADB 696B 6C41 847A 589E 618E 66FE 62EF 70DD 7511 75C7 7E52 84B8
       8B49 8D08 4E4B 53EA"),
   (21566,
      "54AB 5730 5740 5FD7 6301 6307 646F 652F 65E8 667A 679D 67B3 6B62 6C60 6C9A 6F2C 77E5 7825
       7949 7957 7D19 80A2 8102 81F3 829D 82B7 8718 8A8C F9FC 8D04 8DBE 9072 76F4 7A19 7A37 7E54
       8077 5507 55D4 5875 632F 6422 6649 664B 686D 699B 6B84 6D25 6EB1 73CD 7468 74A1 755B 75B9
       76E1 771E 778B 79E6 7E09 7E1D 81FB 852F 8897 8A3A 8CD1 8EEB 8FB0 9032 93AD 9663 9673 9707
       4F84 53F1 59EA 5AC9 5E19 684E 74C6 75BE 79E9 7A92 81A3 86ED 8CEA 8DCC 8FED 659F 6715 F9FD
       57F7 6F57 7DDD 8F2F"),
   (21756,
      "93F6 96C6 5FB5 61F2 6F84 4E14 4F98 501F 53C9 55DF 5D6F 5DEE 6B21 6B64 78CB 7B9A F9FE 8E49
       8ECA 906E 6349 643E 7740 7A84 932F 947F 9F6A 64B0 6FAF 71E6 74A8 74DA 7AC4 7C12 7E82 7CB2
       7E98 8B9A 8D0A 947D 9910 994C 5239 5BDF 64E6 672D 7D2E 50ED 53C3 5879 6158-6159 61FA 65AC
       7AD9 8B92 8B96 5009 5021 5275 5531 5A3C 5EE0 5F70 6134 655E 660C 6636 66A2 69CD 6EC4 6F32
       7316 7621 7A93 8139 8259 83D6 84BC 50B5 57F0 5BC0 5BE8 5F69 63A1 7826 7DB5 83DC 8521 91C7
       91F5 518A 67F5 7B56"),
   (21946,
      "8CAC 51C4 59BB 60BD 8655 501C F9FF 5254 5C3A 617D 621A 62D3 64F2 65A5 6ECC 7620 810A 8E60
       965F 96BB 4EDF 5343 5598 5929 5DDD 64C5 6CC9 6DFA 7394 7A7F 821B 85A6 8CE4 8E10 9077 91E7
       95E1 9621 97C6 51F8 54F2 5586 5FB9 64A4 6F88 7DB4 8F1F 8F4D 9435 50C9 5C16 6CBE 6DFB 751B
       77BB 7C3D 7C64 8A79 8AC2 581E 59BE 5E16 6377 7252 758A 776B 8ADC 8CBC 8F12 5EF3 6674 6DF8
       807D 83C1 8ACB 9751 9BD6 FA00 5243 66FF 6D95 6EEF 7DE0 8AE6 902E 905E 9AD4 521D 527F 54E8
       6194 6284 62DB 68A2"),
   (22136,
      "6912 695A 6A35 7092 7126 785D 7901 790E 79D2 7A0D 8096 8278 82D5 8349 8549 8C82 8D85 9162
       918B 91AE 4FC3 56D1 71ED 77D7 8700 89F8 5BF8 5FD6 6751 90A8 53E2 585A 5BF5 60A4 6181 6460
       7E3D 8070 8525 9283 64AE 50AC 5D14 6700 589C 62BD 63A8 690E 6978 6A1E 6E6B 76BA 79CB 82BB
       8429 8ACF 8DA8 8FFD 9112 914B 919C 9310 9318 939A 96DB 9A36 9C0D 4E11 755C 795D 7AFA 7B51
       7BC9 7E2E 84C4 8E59 8E74 8EF8 9010 6625 693F 7443 51FA 672E 9EDC 5145 5FE0 6C96 87F2 885D
       8877 60B4 81B5 8403"),
   (22326,
      "8D05 53D6 5439 5634 5A36 5C31 708A 7FE0 805A 8106 81ED 8DA3 9189 9A5F 9DF2 5074 4EC4 53A0
       60FB 6E2C 5C64 4F88 5024 55E4 5CD9 5E5F 6065 6894 6CBB 6DC4 71BE 75D4 75F4 7661 7A1A 7A49
       7DC7 7DFB 7F6E 81F4 86A9 8F1C 96C9 99B3 9F52 5247 52C5 98ED 89AA 4E03 67D2 6F06 4FB5 5BE2
       6795 6C88 6D78 741B 7827 91DD 937C 87C4 79E4 7A31 5FEB 4ED6 54A4 553E 58AE 59A5 60F0 6253
       62D6 6736 6955 8235 9640 99B1 99DD 502C 5353 5544 577C FA01 6258 FA02 64E2 666B 67DD 6FC1
       6FEF 7422 7438 8A17"),
   (22516,
      "9438 5451 5606 5766 5F48 619A 6B4E 7058 70AD 7DBB 8A95 596A 812B 63A2 7708 803D 8CAA 5854
       642D 69BB 5B95 5E11 6E6F FA03 8569 514C 53F0 592A 6020 614B 6B86 6C70 6CF0 7B1E 80CE 82D4
       8DC6 90B0 98B1 FA04 64C7 6FA4 6491 6504 514E 5410 571F 8A0E 615F 6876 FA05 75DB 7B52 7D71
       901A 5806 69CC 817F 892A 9000 9839 5078 5957 59AC 6295 900F 9B2A 615D 7279 95D6 5761 5A46
       5DF4 628A 64AD 64FA 6777 6CE2 6D3E 722C 7436 7834 7F77 82AD 8DDB 9817 5224 5742 677F 7248
       74E3 8CA9 8FA6 9211"),
   (22706,
      "962A 516B 53ED 634C 4F69 5504 6096 6557 6C9B 6D7F 724C 72FD 7A17 8987 8C9D 5F6D 6F8E 70F9
       81A8 610E 4FBF 504F 6241 7247 7BC7 7DE8 7FE9 904D 97AD 9A19 8CB6 576A 5E73 67B0 840D 8A55
       5420 5B16 5E63 5EE2 5F0A 6583 80BA 853D 9589 965B 4F48 5305 530D 530F 5486 54FA 5703 5E03
       6016 629B 62B1 6355 FA06 6CE1 6D66 75B1 7832 80DE 812F 82DE 8461 84B2 888D 8912 900B 92EA
       98FD 9B91 5E45 66B4 66DD 7011 7206 FA07 4FF5 527D 5F6A 6153 6753 6A19 6F02 74E2 7968 8868
       8C79 98C7 98C4 9A43"),
   (22896,
      "54C1 7A1F 6953 8AF7 8C4A 98A8 99AE 5F7C 62AB 75B2 76AE 88AB 907F 9642 5339 5F3C 5FC5 6CCC
       73CC 7562 758B 7B46 82FE 999D 4E4F 903C 4E0B 4F55 53A6 590F 5EC8 6630 6CB3 7455 8377 8766
       8CC0 9050 971E 9C15 58D1 5B78 8650 8B14 9DB4 5BD2 6068 608D 65F1 6C57 6F22 6FA3 701A 7F55
       7FF0 9591-9592 9650 97D3 5272 8F44 51FD 542B 54B8 5563 558A 6ABB 6DB5 7DD8 8266 929C 9677
       9E79 5408 54C8 76D2 86E4 95A4 95D4 965C 4EA2 4F09 59EE 5AE6 5DF7 6052 6297 676D 6841 6C86
       6E2F 7F38 809B 822A"),
   (23086,
      "FA08-FA09 9805 4EA5 5055 54B3 5793 595A 5B69 5BB3 61C8 6977 6D77 7023 87F9 89E3 8A72 8AE7
       9082 99ED 9AB8 52BE 6838 5016 5E78 674F 8347 884C 4EAB 5411 56AE 73E6 9115 97FF 9909 9957
       9999 5653 589F 865B 8A31 61B2 6AF6 737B 8ED2 6B47 96AA 9A57 5955 7200 8D6B 9769 4FD4 5CF4
       5F26 61F8 665B 6CEB 70AB 7384 73B9 73FE 7729 774D 7D43 7D62 7E23 8237 8852 FA0A 8CE2 9249
       986F 5B51 7A74 8840 9801 5ACC 4FE0 5354 593E 5CFD 633E 6D79 72F9 8105 8107 83A2 92CF 9830
       4EA8 5144 5211 578B"),
   (23276,
      "5F62 6CC2 6ECE 7005 7050 70AF 7192 73E9 7469 834A 87A2 8861 9008 90A2 93A3 99A8 516E 5F57
       60E0 6167 66B3 8559 8E4A 91AF 978B 4E4E 4E92 547C 58D5 58FA 597D 5CB5 5F27 6236 6248 660A
       6667 6BEB 6D69 6DCF 6E56 6EF8 6F94 6FE0 6FE9 705D 72D0 7425 745A 74E0 7693 795C 7CCA 7E1E
       80E1 82A6 846B 84BF 864E 865F 8774 8B77 8C6A 93AC 9800 9865 60D1 6216 9177 5A5A 660F 6DF7
       6E3E 743F 9B42 5FFD 60DA 7B0F 54C4 5F18 6C5E 6CD3 6D2A 70D8 7D05 8679 8A0C 9D3B 5316 548C
       5B05 6A3A 706B 7575"),
   (23466,
      "798D 79BE 82B1 83EF 8A71 8B41 8CA8 9774 FA0B 64F4 652B 78BA-78BB 7A6B 4E38 559A 5950 5BA6
       5E7B 60A3 63DB 6B61 6665 6853 6E19 7165 74B0 7D08 9084 9A69 9C25 6D3B 6ED1 733E 8C41 95CA
       51F0 5E4C 5FA8 604D 60F6 6130 614C 6643-6644 69A5 6CC1 6E5F 6EC9 6F62 714C 749C 7687 7BC1
       7C27 8352 8757 9051 968D 9EC3 532F 56DE 5EFB 5F8A 6062 6094 61F7 6666 6703 6A9C 6DEE 6FAE
       7070 736A 7E6A 81BE 8334 86D4 8AA8 8CC4 5283 7372 5B96 6A6B 9404 54EE 5686 5B5D 6548 6585
       66C9 689F 6D8D 6DC6"),
   (23656,
      "723B 80B4 9175 9A4D 4FAF 5019 539A 540E 543C 5589 55C5 5E3F 5F8C 673D 7166 73DD 9005 52DB
       52F3 5864 58CE 7104 718F 71FB 85B0 8A13 6688 85A8 55A7 6684 714A 8431 5349 5599 6BC1 5F59
       5FBD 63EE 6689 7147 8AF1 8F1D 9EBE 4F11 643A 70CB 7566 8667 6064 8B4E 9DF8 5147 51F6 5308
       6D36 80F8 9ED1 6615 6B23 7098 75D5 5403 5C79 7D07 8A16 6B20 6B3D 6B46 5438 6070 6D3D 7FD5
       8208 50D6 51DE 559C 566B 56CD 59EC 5B09 5E0C 6199 6198 6231 665E 66E6 7199 71B9-71BA 72A7
       79A7 7A00 7FB2 8A70")]

end RecipientRewriting.Charset
