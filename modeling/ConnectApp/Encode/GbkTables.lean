import ConnectApp.Encode.Utf8
import ConnectApp.Lib.PackedTable

/-!
# The conversion tables of utility/encode

`mb_uni2gb_table` (utf8_to_gbk.c:5-1314) and `mb_gb2uni_table` (gbk_to_utf8.c:7-1514): the entries
of the source one behind the other, up to 128 in a numeral. Entries that count up, 12 or more of
them, are given by the first and their number.

* `mbUni2gbTable`, `mbGb2uniTable` : the tables
* `gbkToUnicode_mbUni2gb` : the second table takes back every entry of the first
* `mbGb2uniTable_gaps` : where the second table holds ASCII
-/

namespace ConnectApp.Encode

open PackedTable

/-! ## The entries -/

set_option maxRecDepth 8000 in
/-- The entries of `mb_uni2gb_table`. -/
def uni2gbPieces : List Piece := [
 .lit 128 0xd2bbb6a18140c6df814181428143cdf2d5c9c8fdc9cfcfc2d8a2b2bbd3eb8144d8a4b3f38145d7a8c7d2d8a7cac08146c7f0b1fbd2b5b4d4b6abcbbfd8a9814781488149b6aa814ac1bdd1cf814bc9a5d8ad814cb8f6d1bee3dcd6d0814d814eb7e1814fb4ae8150c1d98151d8bc8152cde8b5a4ceaad6f78153c0f6bed9d8af815481558156c4cb8157bec38158d8b1c3b4d2e58159d6aecedad5a7baf5b7a6c0d6815ac6b9c5d2c7c7815bb9d4815cb3cbd2d2815d815ed8bfbec5c6f2d2b2cfb0cfe7815f816081618162cae981638164d8c081658166816781688169816ac2f2c2d2816bc8e9816c816d816e816f817081718172817381748175c7ac8176,
 .lit 128 0x817781788179817a817b817cc1cb817dd3e8d5f9817ecac2b6fed8a1d3dabff78180d4c6bba5d8c1cee5beae81818182d8a88183d1c7d0a9818481858186d8bdd9efcdf6bfba8187bdbbbaa5d2e0b2fabae0c4b68188cfedbea9cda4c1c18189818a818bc7d7d9f1818cd9f4818d818e818f8190c8cbd8e9819181928193d2dacab2c8cad8ecd8ead8c6bdf6c6cdb3f08194d8ebbdf1bde98195c8d4b4d381968197c2d88198b2d6d7d0cacbcbfbd5ccb8b6cfc98199819a819bd9dad8f0c7aa819cd8ee819db4fac1eed2d4819e819fd8ed81a0d2c7d8efc3c781a181a281a3d1f681a4d6d9d8f281a5d8f5bcfebcdb81a681a781a8c8ce81a9b7dd81aab7c2,
 .lit 128 0x81abc6f381ac81ad81ae81af81b081b181b2d8f8d2c181b381b4cee9bcbfb7fcb7a5d0dd81b581b681b781b881b9d6dad3c5bbefbbe1d8f181ba81bbc9a1ceb0b4ab81bcd8f381bdc9cbd8f6c2d7d8f781be81bfceb1d8f981c081c181c2b2aeb9c081c3d9a381c4b0e981c5c1e681c6c9ec81c7cbc581c8cbc6d9a481c981ca81cb81cc81cdb5e881ce81cfb5ab81d081d181d281d381d481d5cebbb5cdd7a1d7f4d3d381d6cce581d7bace81d8d9a2d9dcd3e0d8fdb7f0d7f7d8fed8fad9a1c4e381d981dad3b6d8f4d9dd81dbd8fb81dcc5e581dd81dec0d081df81e0d1f0b0db81e181e2bcd1d9a681e3d9a581e481e581e681e7d9acd9ae81e8d9abcab9,
 .lit 127 0x81e981ea81ebd9a9d6b681ec81ed81eeb3ded9a881efc0fd81f0cacc81f1d9aa81f2d9a781f381f4d9b081f581f6b6b181f781f881f9b9a981fad2c081fb81fccfc081fd81fec2c28240bdc4d5ecb2e0c7c8bfebd9ad8241d9af8242ceeabaee82438244824582468247c7d682488249824a824b824c824d824e824f8250b1e3825182528253b4d9b6edd9b48254825582568257bfa182588259825ad9dec7cec0fed9b8825b825c825d825e825fcbd7b7fd8260d9b58261d9b7b1a3d3e1d9b98262d0c58263d9b682648265d9b18266d9b2c1a9d9b382678268bcf3d0deb8a98269bee3826ad9bd826b826c826d826ed9ba826fb0b3827082718272d9c2,
 .run 0x8273 12,
 .lit 128 0x8280d9c4b1b68281d9bf82828283b5b98284bef3828582868287ccc8baf2d2d08288d9c38289828abde8828bb3ab828c828d828ed9c5beeb828fd9c6d9bbc4df8290d9bed9c1d9c0829182928293829482958296829782988299829a829bd5ae829cd6b5829dc7e3829e829f82a082a1d9c882a282a382a4bcd9d9ca82a582a682a7d9bc82a8d9cbc6ab82a982aa82ab82ac82add9c982ae82af82b082b1d7f682b2cda382b382b482b582b682b782b882b982babda182bb82bc82bd82be82bf82c0d9cc82c182c282c382c482c582c682c782c882c9c5bccdb582ca82cb82ccd9cd82cd82ced9c7b3a5bffe82cf82d082d182d2b8b582d382d4c0fc82d582d6,
 .lit 3 0x82d782d8b0f8,
 .run 0x82d9 21,
 .lit 26 0xb4f682eed9ce82efd9cfb4a2d9d082f082f1b4df82f282f382f482f582f6b0c182f782f882f982fa82fb82fc82fdd9d1c9b582fe,
 .run 0x8340 18,
 .lit 68 0xcff1835283538354835583568357d9d283588359835ac1c5835b835c835d835e835f836083618362836383648365d9d6c9ae8366836783688369d9d5d9d4d9d7836a836b836c836dcbdb836ebda9836f8370837183728373c6a7837483758376837783788379837a837b837c837dd9d3d9d8837e83808381d9d9838283838384838583868387c8e5,
 .run 0x8388 14,
 .lit 1 0xc0dc,
 .run 0x8396 29,
 .lit 128 0xb6f9d8a3d4ca83b3d4aad0d6b3e4d5d783b4cfc8b9e283b5bfcb83b6c3e283b783b883b9b6d283ba83bbcdc3d9eed9f083bc83bd83beb5b383bfb6b583c083c183c283c383c4bea483c583c6c8eb83c783c8c8ab83c983cab0cbb9abc1f9d9e283cbc0bcb9b283ccb9d8d0cbb1f8c6e4bedfb5e4d7c883cdd1f8bce6cade83ce83cfbcbdd9e6d8e783d083d1c4da83d283d3b8d4c8bd83d483d5b2e1d4d983d683d783d883d9c3b083da83dbc3e1daa2c8df83dcd0b483ddbefcc5a983de83df83e0b9da83e1daa383e2d4a9daa483e383e483e583e683e7d9fbb6ac83e883e9b7ebb1f9d9fcb3e5bef683eabff6d2b1c0e483eb83ec83edb6b3d9fed9fd83ee,
 .lit 128 0x83efbebb83f083f183f2c6e083f3d7bcdaa183f4c1b983f5b5f2c1e883f683f7bcf583f8b4d583f983fa83fb83fc83fd83fe844084418442c1dd8443c4fd84448445bcb8b7b284468447b7ef84488449844a844b844c844dd9ec844ec6be844fbfadbbcb84508451b5ca8452dbc9d0d78453cdb9b0bcb3f6bbf7dbcabaaf8454d4e4b5b6b5f3d8d6c8d084558456b7d6c7d0d8d78457bfaf84588459dbbbd8d8845a845bd0ccbbae845c845d845eebbec1d0c1f5d4f2b8d5b4b4845fb3f584608461c9be846284638464c5d0846584668467c5d9c0fb8468b1f08469d8d9b9ce846ab5bd846b846cd8da846d846ed6c6cba2c8afc9b2b4ccbfcc846fb9f48470,
 .lit 128 0xd8dbd8dcb6e7bcc1ccea847184728473847484758476cff78477d8ddc7b084788479b9d0bda3847a847bccde847cc6ca847d847e848084818482d8e08483d8de84848485d8df848684878488b0fe8489bee7848acaa3bcf4848b848c848d848eb8b1848f8490b8ee849184928493849484958496849784988499849ad8e2849bbdcb849cd8e4d8e3849d849e849f84a084a1c5fc84a284a384a484a584a684a784a8d8e584a984aad8e684ab84ac84ad84ae84af84b084b1c1a684b2c8b0b0ecb9a6bcd3cef1dbbdc1d384b384b484b584b6b6afd6fac5acbdd9dbbedbbf84b784b884b9c0f8bea2c0cd84ba84bb84bc84bd84be84bf84c084c184c284c3dbc0,
 .lit 128 0xcac684c484c584c6b2aa84c784c884c9d3c284cac3e384cbd1ab84cc84cd84ce84cfdbc284d0c0d584d184d284d3dbc384d4bfb184d584d684d784d884d984dac4bc84db84dc84dd84dec7da84df84e084e184e284e384e484e584e684e784e884e9dbc484ea84eb84ec84ed84ee84ef84f084f1d9e8c9d784f284f384f4b9b4cef0d4c884f584f684f784f8b0fcb4d284f9d0d984fa84fb84fc84fdd9e984fedecbd9eb8540854185428543d8b0bbafb1b18544b3d7d8ce85458546d4d185478548bdb3bfef8549cfbb854a854bd8d0854c854d854eb7cb854f85508551d8d185528553855485558556855785588559855a855bc6a5c7f8d2bd855c855dd8d2,
 .lit 128 0xc4e4855ecaae855fc7a78560d8a68561c9fdcee7bbdcb0eb856285638564bbaad0ad8565b1b0d7e4d7bf8566b5a5c2f4c4cf85678568b2a98569b2b7856ab1e5dfb2d5bcbfa8c2acd8d5c2b1856bd8d4ced4856cdae0856dcec0856e856fd8b4c3aed3a1cea38570bcb4c8b4c2d18571beedd0b68572dae18573857485758576c7e485778578b3a78579b6f2ccfcc0fa857a857bc0f7857cd1b9d1e1d8c7857d857e85808581858285838584b2de85858586c0e58587baf185888589d8c8858ad4ad858b858ccfe1d8c9858dd8cacfc3858eb3f8bec7858f859085918592d8cb8593859485958596859785988599dbcc859a859b859c859dc8a5859e859f85a0,
 .lit 128 0xcfd885a1c8feb2ce85a285a385a485a585a6d3d6b2e6bcb0d3d1cbabb7b485a785a885a9b7a285aa85abcae585acc8a1cadcb1e4d0f085adc5d185ae85af85b0dbc5b5fe85b185b2bfdab9c5bee4c1ed85b3dfb6dfb5d6bbbdd0d5d9b0c8b6a3bfc9cca8dfb3cab7d3d285b4d8cfd2b6bac5cbbeccbe85b5dfb7b5f0dfb485b685b785b8d3f585b9b3d4b8f785badfba85bbbacfbcaab5f585bccdacc3fbbaf3c0f4cdc2cff2dfb8cfc585bdc2c0dfb9c2f085be85bf85c0befd85c1c1dfcdccd2f7b7cddfc185c2dfc485c385c4b7f1b0c9b6d6b7d485c5baacccfdbfd4cbb1c6f485c6d6a8dfc585c7cee2b3b385c885c9cefcb4b585cacec7baf085cbcee1,
 .lit 128 0x85ccd1bd85cd85cedfc085cf85d0b4f485d1b3ca85d2b8e6dfbb85d385d485d585d6c4c585d7dfbcdfbddfbec5bbdfbfdfc2d4b1dfc385d8c7baced885d985da85db85dc85ddc4d885dedfca85dfdfcf85e0d6dc85e185e285e385e485e585e685e785e8dfc9dfdaceb685e9bac7dfcedfc8c5de85ea85ebc9ebbaf4c3fc85ec85edbed785eedfc685efdfcd85f0c5d885f185f285f385f4d5a6bacd85f5beccd3bdb8c085f6d6e485f7dfc7b9bebfa785f885f9c1fcdfcbdfcc85fadfd085fb85fc85fd85fe8640dfdbdfe58641dfd7dfd6d7c9dfe3dfe4e5ebd2a7dfd28642bfa98643d4db8644bfc8dfd4864586468647cfcc86488649dfdd864ad1ca864b,
 .lit 128 0xdfdeb0a7c6b7dfd3864cbae5864db6dfcddbb9fed4d5864e864fdfdfcfecb0a5dfe7dfd1d1c6dfd5dfd8dfd9dfdc8650bba98651dfe0dfe18652dfe2dfe6dfe8d3b486538654865586568657b8e7c5b6dfeac9dac1a8c4c486588659bfdecff8865a865b865cd5dcdfee865d865e865f866086618662b2b88663badfdfec8664dbc18665d1e48666866786688669cbf4b4bd866ab0a6866b866c866d866e866fdff1ccc6dff286708671dfed867286738674867586768677dfe986788679867a867bdfeb867cdfefdff0bbbd867d867edff386808681dff48682bba38683cadbcea8e0a7b3aa8684e0a6868586868687e0a186888689868a868bdffe868ccdd9,
 .lit 128 0xdffc868ddffa868ebfd0d7c4868fc9cc86908691dff8b0a186928693869486958696dffd869786988699869adffbe0a2869b869c869d869e869fe0a886a086a186a286a3b7c886a486a5c6a1c9b6c0b2dff586a686a7c5be86a8d8c4dff9c4f686a986aa86ab86ac86ad86aee0a3e0a4e0a5d0a586af86b0e0b4cce486b1e0b186b2bfa6e0afceb9e0abc9c686b386b4c0aee0aebaedbab0e0a986b586b686b7dff686b8e0b386b986bae0b886bb86bc86bdb4ade0b986be86bfcfb2bac886c0e0b086c186c286c386c486c586c686c7d0fa86c886c986ca86cb86cc86cd86ce86cf86d0e0ac86d1d4fb86d2dff786d3c5e786d4e0ad86d5d3f786d6e0b6e0b7,
 .lit 128 0x86d786d886d986da86dbe0c4d0e186dc86dd86dee0bc86df86e0e0c9e0ca86e186e286e3e0bee0aac9a4e0c186e4e0b286e586e686e786e886e9cac8e0c386eae0b586ebcecb86eccbc3e0cde0c6e0c286ede0cb86eee0bae0bfe0c086ef86f0e0c586f186f2e0c7e0c886f3e0cc86f4e0bb86f586f686f786f886f9cbd4e0d586fae0d6e0d286fb86fc86fd86fe87408741e0d0bcce87428743e0d18744b8c2d8c587458746874787488749874a874b874cd0ea874d874ec2ef874f8750e0cfe0bd875187528753e0d4e0d387548755e0d78756875787588759e0dce0d8875a875b875cd6f6b3b0875dd7ec875ecbbb875f8760e0da8761cefb876287638764,
 .lit 1 0xbad9,
 .run 0x8765 12,
 .lit 72 0xe0e1e0ddd2ad87718772877387748775e0e287768777e0dbe0d9e0df87788779e0e0877a877b877c877d877ee0de8780e0e4878187828783c6f7d8acd4ebe0e6cac98784878587868787e0e587888789878a878bb8c1878c878d878e878fe0e7e0e887908791879287938794879587968797e0e9e0e387988799879a879b879c879d879ebabfcce7879f87a087a1e0ea,
 .run 0x87a2 15,
 .lit 26 0xcff987b187b287b387b487b587b687b787b887b987ba87bbe0eb87bc87bd87be87bf87c087c187c2c8c287c387c487c587c6bdc0,
 .run 0x87c7 13,
 .lit 128 0xc4d287d487d587d687d787d887d987da87db87dce0ec87dd87dee0ed87df87e0c7f4cbc487e1e0eebbd8d8b6d2f2e0efcdc587e2b6da87e387e487e587e687e787e8e0f187e9d4b087ea87ebc0a7b4d187ec87edcea7e0f087ee87ef87f0e0f2b9cc87f187f2b9facdbce0f387f387f487f5c6d4e0f487f6d4b287f7c8a6e0f6e0f587f887f987fa87fb87fc87fd87fe8840884188428843884488458846884788488849e0f7884a884bcdc1884c884d884ecaa5884f885088518852d4dadbd7dbd98853dbd8b9e7dbdcdbddb5d888548855dbda8856885788588859885adbdbb3a1dbdf885b885cbbf8885dd6b7885edbe0885f886088618862bef988638864,
 .lit 128 0xb7bb8865dbd0ccaebfb2bbb5d7f8bfd38866886788688869886abfe9886b886cbce1ccb3dbdeb0d3ceebb7d8d7b9c6c2886d886ec0a4886fccb98870dbe7dbe1c6badbe38871dbe88872c5f7887388748875dbea88768877dbe9bfc088788879887adbe6dbe5887b887c887d887e8880b4b9c0acc2a2dbe2dbe48881888288838884d0cddbed88858886888788888889c0dddbf2888a888b888c888d888e888f8890b6e28891889288938894dbf3dbd2b9b8d4abdbec8895bfd1dbf08896dbd18897b5e68898dbebbfe58899889a889bdbee889cdbf1889d889e889fdbf988a088a188a288a388a488a588a688a788a8b9a1b0a388a988aa88ab88ac88ad88ae,
 .lit 128 0x88afc2f188b088b1b3c7dbef88b288b3dbf888b4c6d2dbf488b588b6dbf5dbf7dbf688b788b8dbfe88b9d3f2b2ba88ba88bb88bcdbfd88bd88be88bf88c088c188c288c388c4dca488c5dbfb88c688c788c888c9dbfa88ca88cb88ccdbfcc5e0bbf988cd88cedca388cf88d0dca588d1ccc388d288d388d4b6d1ddc088d588d688d7dca188d8dca288d988da88dbc7b588dc88dd88deb6e988df88e088e1dca788e288e388e488e5dca688e6dca9b1a488e788e8b5cc88e988ea88eb88ec88edbfb088ee88ef88f088f188f2d1df88f388f488f588f6b6c288f788f888f988fa88fb88fc88fd88fe894089418942894389448945dca88946894789488949894a,
 .lit 35 0x894b894ccbfaebf3894d894e894fcbdc89508951cbfe895289538954ccc189558956895789588959c8fb895a895b895c895d895e895fdcaa89608961896289638964cceedcab,
 .run 0x8965 17,
 .lit 44 0xdbd38976dcafdcac8977beb38978cafb8979897a897bdcad897c897d897e89808981898289838984c9cac4b989858986898789888989c7bddcae898a898b898cd4f6d0e6898d898e898f89908991899289938994c4abb6d5,
 .run 0x8995 18,
 .lit 26 0xdbd489a789a889a989aab1da89ab89ac89addbd589ae89af89b089b189b289b389b489b589b689b789b8dbd689b989ba89bbbabe,
 .run 0x89bc 14,
 .lit 128 0xc8c089ca89cb89cc89cd89ce89cfcabfc8c989d0d7b389d1c9f989d289d3bfc789d489d5baf889d689d7d2bc89d889d989da89db89dc89dd89de89dfe2ba89e0b4a689e189e2b1b889e389e489e589e689e7b8b489e8cfc489e989ea89eb89ecd9e7cfa6cde289ed89eed9edb6e089efd2b989f089f1b9bb89f289f389f489f5e2b9e2b789f6b4f389f7ccecccabb7f289f8d8b2d1ebbabb89f9caa789fa89fbcdb789fc89fdd2c4bfe4bcd0b6e189fedec58a408a418a428a43dec6dbbc8a44d1d98a458a46c6e6c4ceb7ee8a47b7dc8a488a49bffcd7e08a4ac6f58a4b8a4cb1bcdec8bdb1ccd7deca8a4ddec98a4e8a4f8a508a518a52b5ec8a53c9dd8a54,
 .lit 2 0x8a55b0c2,
 .run 0x8a56 13,
 .lit 122 0xc5aec5ab8a63c4cc8a64bce9cbfd8a658a668a67bac38a688a698a6ae5f9c8e7e5facdfd8a6bd7b1b8bec2e88a6cc8d18a6d8a6ee5fb8a6f8a708a718a72b6cabccb8a738a74d1fde6a18a75c3ee8a768a778a788a79e6a48a7a8a7b8a7c8a7de5fee6a5cdd78a7e8a80b7c1e5fce5fde6a38a818a82c4dde6a88a838a84e6a78a858a868a878a888a898a8ac3c38a8bc6de8a8c8a8de6aa8a8e8a8f8a908a918a928a938a94c4b78a958a968a97e6a2cabc8a988a998a9a8a9bbde3b9c3e6a6d0d5ceaf8a9c8a9de6a9e6b08a9ed2a68a9fbdaae6ad8aa08aa18aa28aa38aa4e6af8aa5c0d18aa68aa7d2cc8aa88aa98aaabca7,
 .run 0x8aab 12,
 .lit 128 0xe6b18ab7d2f68ab88ab98abad7cb8abbcdfe8abccddec2a6e6abe6acbdbfe6aee6b38abd8abee6b28abf8ac08ac18ac2e6b68ac3e6b88ac48ac58ac68ac7c4ef8ac88ac98acac4c88acb8accbeeac9ef8acd8acee6b78acfb6f08ad08ad18ad2c3e48ad38ad48ad58ad68ad78ad88ad9d3e9e6b48adae6b58adbc8a28adc8add8ade8adf8ae0e6bd8ae18ae28ae3e6b98ae48ae58ae68ae78ae8c6c58ae98aeacdf1e6bb8aeb8aec8aed8aee8aef8af08af18af28af38af4e6bc8af58af68af78af8bbe98af98afa8afb8afc8afd8afe8b40e6be8b418b428b438b44e6ba8b458b46c0b78b478b488b498b4a8b4b8b4c8b4d8b4e8b4fd3a4e6bfc9f4e6c38b50,
 .lit 7 0x8b51e6c48b528b538b548b55d0f6,
 .run 0x8b56 18,
 .lit 10 0xc3bd8b688b698b6a8b6b8b6c8b6d8b6ec3c4e6c2,
 .run 0x8b6f 14,
 .lit 72 0xe6c18b7d8b7e8b808b818b828b838b84e6c7cfb18b85ebf48b868b87e6ca8b888b898b8a8b8b8b8ce6c58b8d8b8ebcdec9a98b8f8b908b918b928b938b94bcb58b958b96cfd38b978b988b998b9a8b9be6c88b9ce6c98b9de6ce8b9ee6d08b9f8ba08ba1e6d18ba28ba38ba4e6cbb5d58ba5e6cc8ba68ba7e6cf8ba88ba9c4db8baae6c68bab8bac8bad8bae8bafe6cd,
 .run 0x8bb0 23,
 .lit 1 0xe6d2,
 .run 0x8bc7 12,
 .lit 2 0xe6d4e6d3,
 .run 0x8bd3 26,
 .lit 128 0xe6d58bedd9f88bee8befe6d68bf08bf18bf28bf38bf48bf58bf68bf7e6d78bf88bf98bfa8bfb8bfc8bfd8bfe8c408c418c428c438c448c458c468c47d7d3e6dd8c48e6debfd7d4d08c49d7d6b4e6cbefe6dad8c3d7ced0a28c4ac3cf8c4b8c4ce6dfbcbeb9c2e6dbd1a78c4d8c4ebaa2c2cf8c4fd8ab8c508c518c52caebe5ee8c53e6dc8c54b7f58c558c568c578c58c8e68c598c5ac4f58c5b8c5ce5b2c4fe8c5dcbfce5b3d5ac8c5ed3eecad8b0b28c5fcbcecdea8c608c61baea8c628c638c64e5b58c65e5b48c66d7dab9d9d6e6b6a8cdf0d2cbb1a6cab58c67b3e8c9f3bfcdd0fbcad2e5b6bbc28c688c698c6acfdcb9ac8c6b8c6c8c6d8c6ed4d78c6f,
 .lit 128 0x8c70baa6d1e7cffcbcd28c71e5b7c8dd8c728c738c74bfedb1f6cbde8c758c76bcc58c77bcc4d2fac3dcbfdc8c788c798c7a8c7bb8bb8c7c8c7d8c7ec3c28c80baaed4a28c818c828c838c848c858c868c878c888c89c7dec4afb2ec8c8ab9d18c8b8c8ce5bbc1c88c8d8c8ed5af8c8f8c908c918c928c93e5bc8c94e5be8c958c968c978c988c998c9a8c9bb4e7b6d4cbc2d1b0b5bc8c9c8c9dcad98c9eb7e28c9f8ca0c9e48ca1bdab8ca28ca3cebed7f08ca48ca58ca68ca7d0a18ca8c9d98ca98caab6fbe6d8bce28cabb3be8cacc9d08cade6d9b3a28cae8caf8cb08cb1decc8cb2d3c8decd8cb3d2a28cb48cb58cb68cb7dece8cb88cb98cba8cbbbecd,
 .lit 128 0x8cbc8cbddecf8cbe8cbf8cc0caacd2fcb3dfe5eac4e1bea1ceb2c4f2bed6c6a8b2e38cc18cc2bed38cc38cc4c7fcccebbdeccedd8cc58cc6cabac6c1e5ecd0bc8cc78cc88cc9d5b98cca8ccb8ccce5ed8ccd8cce8ccf8cd0caf48cd1cdc0c2c58cd2e5ef8cd3c2c4e5f08cd48cd58cd68cd78cd88cd98cdae5f8cdcd8cdbc9bd8cdc8cdd8cde8cdf8ce08ce18ce2d2d9e1a88ce38ce48ce58ce6d3ec8ce7cbeac6f18ce88ce98cea8ceb8cece1ac8ced8cee8cefe1a7e1a98cf08cf1e1aae1af8cf28cf3b2ed8cf4e1abb8dae1ade1aee1b0b5bae1b18cf58cf68cf78cf88cf9e1b3e1b88cfa8cfb8cfc8cfd8cfed1d28d40e1b6e1b5c1eb8d418d428d43e1b7,
 .lit 128 0x8d44d4c08d45e1b28d46e1bab0b68d478d488d498d4ae1b48d4bbff98d4ce1b98d4d8d4ee1bb8d4f8d508d518d528d538d54e1be8d558d568d578d588d598d5ae1bc8d5b8d5c8d5d8d5e8d5f8d60d6c58d618d628d638d648d658d668d67cfbf8d688d69e1bde1bfc2cd8d6ab6eb8d6bd3f88d6c8d6dc7cd8d6e8d6fb7e58d708d718d728d738d748d758d768d778d788d79befe8d7a8d7b8d7c8d7d8d7e8d80e1c0e1c18d818d82e1c7b3e78d838d848d858d868d878d88c6e98d898d8a8d8b8d8c8d8db4de8d8ed1c28d8f8d908d918d92e1c88d938d94e1c68d958d968d978d988d99e1c58d9ae1c3e1c28d9bb1c08d9c8d9d8d9ed5b8e1c48d9f8da08da1,
 .lit 67 0x8da28da3e1cb8da48da58da68da78da88da98daa8dabe1cce1ca8dac8dad8dae8daf8db08db18db28db3effa8db48db5e1d3e1d2c7b68db68db78db88db98dba8dbb8dbc8dbd8dbe8dbf8dc0e1c98dc18dc2e1ce8dc3e1d08dc48dc58dc68dc78dc88dc98dca8dcb8dcc8dcd8dcee1d48dcfe1d1e1cd8dd08dd1e1cf8dd28dd38dd48dd5e1d5,
 .run 0x8dd6 13,
 .lit 1 0xe1d6,
 .run 0x8de3 22,
 .lit 8 0xe1d78df98dfa8dfbe1d88dfc8dfd8dfe,
 .run 0x8e40 22,
 .lit 1 0xe1da,
 .run 0x8e56 13,
 .lit 9 0xe1db8e638e648e658e668e678e688e69cea1,
 .run 0x8e6a 13,
 .lit 128 0xe7dd8e77b4a8d6dd8e788e79d1b2b3b28e7a8e7bb9a4d7f3c7c9bedeb9ae8e7cced78e7d8e7eb2eedbcf8e80bcbad2d1cbc8b0cd8e818e82cfef8e838e848e858e868e87d9e3bded8e888e89b1d2cad0b2bc8e8acba7b7ab8e8bcaa68e8c8e8d8e8ecfa38e8f8e90e0f8d5cae0fb8e918e92e0fac5c1ccfb8e93c1b1e0f9d6e3b2afd6c4b5db8e948e958e968e978e988e998e9a8e9bb4f8d6a18e9c8e9d8e9e8e9f8ea0cfafb0ef8ea18ea2e0fc8ea38ea48ea58ea68ea7e1a1b3a38ea88ea9e0fde0fec3b18eaa8eab8eac8eadc3dd8eaee1a2b7f98eaf8eb08eb18eb28eb38eb4bbcf8eb58eb68eb78eb88eb98eba8ebbe1a3c4bb8ebc8ebd8ebe8ebf8ec0,
 .lit 8 0xe1a48ec18ec2e1a58ec38ec4e1a6b4b1,
 .run 0x8ec5 15,
 .lit 106 0xb8c9c6bdc4ea8ed4b2a28ed5d0d28ed6e7dbbbc3d3d7d3c48ed7b9e3e2cf8ed88ed98edad7af8edbc7ecb1d38edc8eddb4b2e2d18ede8edf8ee0d0f2c2aee2d08ee1bfe2d3a6b5d7e2d2b5ea8ee2c3edb8fd8ee3b8ae8ee4c5d3b7cfe2d48ee58ee68ee78ee8e2d3b6c8d7f98ee98eea8eeb8eec8eedcda58eee8eef8ef08ef18ef2e2d88ef3e2d6cafcbfb5d3b9e2d58ef48ef58ef68ef7e2d78ef88ef98efa8efb8efc8efd8efe8f408f418f42c1aec0c88f438f448f458f468f478f48e2dbe2dac0aa8f498f4ac1ce8f4b8f4c8f4d8f4ee2dc,
 .run 0x8f4f 12,
 .lit 89 0xe2dd8f5be2de8f5c8f5d8f5e8f5f8f608f618f628f638f64dbc88f65d1d3cda28f668f67bda88f688f698f6adec3d8a5bfaadbcdd2ecc6fac5aa8f6b8f6c8f6ddec48f6eb1d7dfae8f6f8f708f71cabd8f72dfb18f73b9ad8f74d2fd8f75b8a5baeb8f768f77b3da8f788f798f7ab5dcd5c58f7b8f7c8f7d8f7ec3d6cfd2bba18f80e5f3e5f28f818f82e5f48f83cde48f84c8f58f858f868f878f888f898f8a8f8bb5afc7bf8f8ce5f68f8d8f8e8f8fecb0,
 .run 0x8f90 15,
 .lit 128 0xe5e68f9fb9e9b5b18fa0c2bce5e8e5e7e5e98fa18fa28fa38fa4d2cd8fa58fa68fa7e1ead0ce8fa8cdae8fa9d1e58faa8fabb2cab1eb8facb1f2c5ed8fad8faed5c3d3b08fafe1dc8fb08fb18fb2e1dd8fb3d2db8fb4b3b9b1cb8fb58fb68fb7cdf9d5f7e1de8fb8beb6b4fd8fb9e1dfbadce1e0bbb2c2c9e1e18fba8fbb8fbcd0ec8fbdcdbd8fbe8fbfe1e28fc0b5c3c5c7e1e38fc18fc2e1e48fc38fc48fc58fc6d3f98fc78fc88fc98fca8fcb8fcce1e58fcdd1ad8fce8fcfe1e6cea28fd08fd18fd28fd38fd48fd5e1e78fd6b5c28fd78fd88fd98fdae1e8bbd58fdb8fdc8fdd8fde8fdfd0c4e2e0b1d8d2e48fe08fe1e2e18fe28fe3bcc9c8cc8fe4e2e3,
 .lit 128 0xecfeecfddfaf8fe58fe68fe7e2e2d6becdfcc3a68fe88fe98feae3c38feb8fecd6d2e2e78fed8feee2e88fef8ff0d3c78ff18ff2e2ecbfec8ff3e2ede2e58ff48ff5b3c08ff68ff78ff8c4ee8ff98ffae2ee8ffb8ffcd0c38ffdbaf6e2e9b7debbb3ccaccbcbe2e4e2e6e2eae2eb8ffe90409041e2f790429043e2f4d4f5e2f390449045c5ad9046d5fac5c2b2c090479048e2ef9049e2f2c1afcbbc904a904bb5a1e2f9904c904d904ebcb1e2f1d0d4d4b9e2f5b9d6e2f6904f90509051c7d390529053905490559056e2f0905790589059905a905bd7dceda1905c905de2f8905eeda5e2fecad1905f906090619062906390649065c1b59066bbd090679068,
 .lit 128 0xbfd69069bae3906a906bcba1906c906d906eeda6eda3906f9070eda29071907290739074bbd6eda7d0f490759076eda4badeb6f7e3a1b6b2ccf1b9a79077cfa2c7a190789079bfd2907a907bb6f1907ce2fae2fbe2fde2fcc4d5e3a2907dd3c1907e90809081e3a7c7c49082908390849085cfa490869087e3a9bab790889089908a908be3a8908cbbda908de3a3908e908f9090e3a4e3aa9091e3a69092cef2d3c690939094bbbc90959096d4c39097c4fa90989099eda8d0fce3a5909ac3f5909be3adb1af909ce3b2909d909e909fbcc290a090a1e3acb5bf90a290a390a490a590a690a790a890a9c7e9e3b090aa90ab90acbeaacdef90ad90ae90af90b0,
 .lit 92 0x90b1bbf390b290b390b4cce890b590b6e3af90b7e3b190b8cfa7e3ae90b9cea9bbdd90ba90bb90bc90bd90beb5ebbee5b2d2b3cd90bfb1b9e3abb2d1b5acb9dfb6e890c090c1cfebe3b790c2bbcc90c390c4c8c7d0ca90c590c690c790c890c9e3b8b3ee90ca90cb90cc90cdeda990ced3fad3e490cf90d090d1edaae3b9d2e290d290d390d490d590d6e3b590d790d890d990dad3de90db90dc90dd90deb8d0e3b390df90e0e3b6b7df90e1e3b4c0a290e290e390e4e3ba,
 .run 0x90e5 19,
 .lit 57 0xd4b890f890f990fa90fb90fc90fd90fe9140b4c89141e3bb9142bbc59143c9f791449145c9e5914691479148c4bd9149914a914b914c914d914e914fedab9150915191529153c2fd9154915591569157bbdbbfae91589159915a915b915c915d915ecebf915f916091619162e3bc9163bfb6,
 .run 0x9164 19,
 .lit 74 0xb1ef91779178d4f79179917a917b917c917de3be917e9180918191829183918491859186edad918791889189918a918b918c918d918e918fe3bfbaa9edac91909191e3bd91929193919491959196919791989199919a919be3c0919c919d919e919f91a091a1bab691a291a391a4b6ae91a591a691a791a891a9d0b891aab0c3edae91ab91ac91ad91ae91afedafc0c191b0e3c1,
 .run 0x91b1 17,
 .lit 1 0xc5b3,
 .run 0x91c2 14,
 .lit 128 0xe3c291d091d191d291d391d491d591d691d791d8dcb291d991da91db91dc91dd91deedb091dfb8ea91e0ceeceaa7d0e7caf9c8d6cfb7b3c9ced2bde491e191e2e3debbf2eaa8d5bd91e3c6ddeaa991e491e591e6eaaa91e7eaaceaab91e8eaaeeaad91e991ea91eb91ecbdd891edeaaf91eec2be91ef91f091f191f2b4c1b4f791f391f4bba791f591f691f791f891f9ece6ece5b7bfcbf9b1e291faece791fb91fc91fdc9c8ece8ece991fecad6ded0b2c5d4fa92409241c6cbb0c7b4f2c8d3924292439244cdd092459246bfb8924792489249924a924b924c924dbfdb924e924fc7a4d6b49250c0a9ded1c9a8d1efc5a4b0e7b3b6c8c592519252b0e29253,
 .lit 128 0x9254b7f692559256c5fa92579258b6f39259d5d2b3d0bcbc925a925b925cb3ad925d925e925f9260bef1b0d1926192629263926492659266d2d6cae3d7a59267cdb6b6b6bfb9d5db9268b8a7c5d79269926a926bded2bfd9c2d5c7c0926cbba4b1a8926d926ec5ea926f9270c5fbcca79271927292739274b1a7927592769277b5d692789279927ac4a8927bded3d1bab3e9927cc3f2927d927eb7f79280d6f4b5a3b2f0c4b4c4e9c0added49281b0e8c5c4c1e09282b9d59283bedccdd8b0ce9284cdcfded6bed0d7beded5d5d0b0dd92859286c4e292879288c2a3bcf09289d3b5c0b9c5a1b2a6d4f1928a928bc0a8cac3ded7d5fc928cb9b0928dc8adcba9,
 .lit 128 0x928eded9bfbd928f929092919292c6b4d7a7cab0c4c39293b3d6b9d29294929592969297d6b8eafcb0b492989299929a929bbfe6929c929dccf4929e929f92a092a1cdda92a292a392a4d6bfc2ce92a5cececca2d0aec4d3b5b2ded8d5f5bcb7bbd392a692a7b0a492a8c5b2b4ec92a992aa92abd5f192ac92adeafd92ae92af92b092b192b292b3dedacda692b492b5cdec92b692b792b892b9cee6dedc92bacdb1c0a692bb92bcd7bd92bddedbb0c6bab4c9d3c4f3bee892be92bf92c092c1b2b692c292c392c492c592c692c792c892c9c0cccbf092cabcf1bbbbb5b792cb92cc92cdc5f592cedee692cf92d092d1dee3bedd92d292d3dedf92d492d592d6,
 .lit 128 0x92d7b4b7bddd92d892d9dee0c4ed92da92db92dc92ddcfc692deb5e092df92e092e192e2b6decadab5f4dee592e3d5c692e4dee1cccdc6fe92e5c5c592e692e792e8d2b492e9bef292ea92eb92ec92ed92ee92ef92f0c2d392f1ccbdb3b892f2bdd392f3bfd8cdc6d1dab4eb92f4dee4dedddee792f5eafe92f692f7c2b0dee292f892f9d6c0b5a792fab2f492fbdee892fcdef292fd92fe934093419342deed9343def193449345c8e0934693479348d7e1deefc3e8cce19349b2e5934a934b934cd2be934d934e934f9350935193529353deee9354deebced59355b4a79356935793589359935abfabbebe935b935cbdd2935d935e935f9360dee99361d4ae,
 .lit 128 0x9362dede9363deea9364936593669367c0bf9368deecb2f3b8e9c2a79369936abdc1936b936c936d936e936fdef5def893709371b2abb4a493729373b4eac9a6937493759376937793789379def6cbd1937ab8e3937bdef7defa937c937d937e9380def9938193829383ccc29384b0e1b4ee93859386938793889389938ae5ba938b938c938d938e938fd0af93909391b2eb9392eba19393def493949395c9e3def3b0dad2a1b1f79396ccaf939793989399939a939b939c939ddef0939ecba4939f93a093a1d5aa93a293a393a493a593a6defb93a793a893a993aa93ab93ac93ad93aeb4dd93afc4a693b093b193b2defd93b393b493b593b693b793b893b9,
 .lit 114 0x93ba93bb93bcc3fec4a1dfa193bd93be93bf93c093c193c293c3c1cc93c4defcbeef93c5c6b293c693c793c893c993ca93cb93cc93cd93ceb3c5c8f693cf93d0cbbadefe93d193d2dfa493d393d493d593d6d7b293d793d893d993da93dbb3b793dc93dd93de93dfc1c393e093e1c7cbb2a5b4e993e2d7ab93e393e493e593e6c4ec93e7dfa2dfa393e8dfa593e9bab393ea93eb93ecdfa693edc0de93ee93efc9c393f093f193f293f393f493f593f6b2d9c7e693f7dfa793f8c7dc93f993fa93fb93fcdfa8eba293fd93fe944094419442cbd3944394449445dfaa9446dfa99447b2c1,
 .run 0x9448 25,
 .lit 120 0xc5ca94619462946394649465946694679468dfab9469946a946b946c946d946e946f9470d4dc94719472947394749475c8c19476947794789479947a947b947c947d947e948094819482dfac94839484948594869487bef094889489dfadd6a7948a948b948c948deab7ebb6cad5948ed8fcb8c4948fb9a594909491b7c5d5fe94929493949494959496b9ca94979498d0a7f4cd9499949ab5d0949b949cc3f4949dbec8949e949f94a0ebb7b0bd94a194a2bdcc94a3c1b294a4b1d6b3a894a594a694a7b8d2c9a294a894a9b6d894aa94ab94ac94adebb8beb494ae94af94b0cafd94b1c7c394b2d5fb94b394b4b7f3,
 .run 0x94b5 15,
 .lit 128 0xcec494c494c594c6d5abb1f394c794c894c9ecb3b0df94caecb594cb94cc94cdb6b794cec1cf94cff5fad0b194d094d1d5e594d2ced394d394d4bdefb3e294d5b8ab94d6d5b694d7edbd94d8b6cf94d9cbb9d0c294da94db94dc94dd94de94df94e094e1b7bd94e294e3ecb6caa994e494e594e6c5d494e7ecb9ecb8c2c3ecb794e894e994ea94ebd0fdecba94ececbbd7e594ed94eeecbc94ef94f094f1ecbdc6ec94f294f394f494f594f694f794f894f9cede94fabcc894fb94fcc8d5b5a9bec9d6bcd4e794fd94fed1aed0f1eab8eab9eababab59540954195429543cab1bff595449545cdfa9546954795489549954aeac0954bb0baeabe954c954dc0a5,
 .lit 128 0x954e954f9550eabb9551b2fd9552c3f7bbe8955395549555d2d7cef4eabf955695579558eabc9559955a955beac3955cd0c7d3b3955d955e955f9560b4ba9561c3c1d7f29562956395649565d5d19566cac79567eac595689569eac4eac7eac6956a956b956c956d956ed6e7956fcfd495709571eacb9572bbce9573957495759576957795789579bdfac9ce957a957beacc957c957dc9b9cffeeacad4ceeacdeacf957e9580cded9581958295839584eac99585eace95869587ceee9588bbde9589b3bf958a958b958c958d958ec6d5beb0cefa958f95909591c7e79592bea7ead095939594d6c7959595969597c1c095989599959ad4dd959bead1959c959d,
 .lit 56 0xcfbe959e959f95a095a1ead295a295a395a495a5caee95a695a795a895a9c5afb0b595aa95ab95ac95ad95aeead495af95b095b195b295b395b495b595b695b7ead3f4df95b895b995ba95bb95bcc4ba95bd95be95bf95c095c1b1a995c295c395c495c5e5df95c695c795c895c9ead5,
 .run 0x95ca 26,
 .lit 128 0xcaef95e4ead6ead7c6d895e595e695e795e895e995ea95eb95ecead895ed95eeead995ef95f095f195f295f395f4d4bb95f5c7fad2b7b8fc95f695f7eac295f8b2dc95f995fac2fc95fbd4f8cce6d7ee95fc95fd95fe9640964196429643d4c2d3d0ebc3c5f39644b7fe96459646ebd4964796489649cbb7ebde964ac0ca964b964c964dcdfb964eb3af964fc6da965096519652965396549655ebfc9656c4be9657ceb4c4a9b1bed4fd9658caf59659d6ec965a965bc6d3b6e4965c965d965e965fbbfa96609661d0e096629663c9b19664d4d3c8a896659666b8cb9667e8bec9bc96689669e8bb966ac0eed0d3b2c4b4e5966be8bc966c966dd5c8966e966f,
 .lit 128 0x967096719672b6c59673e8bdcaf8b8dcccf5967496759676c0b496779678d1eee8bfe8c29679967ababc967bb1adbddc967ceabde8c3967de8c6967ee8cb9680968196829683e8cc9684cbc9b0e59685bcab96869687b9b996889689e8c1968acdf7968be8ca968c968d968e968fcef69690969196929693d5ed9694c1d6e8c49695c3b69696b9fbd6a6e8c8969796989699cae0d4e6969ae8c0969be8c5e8c7969cc7b9b7e3969de8c9969ebfdde8d2969f96a0e8d796a1e8d5bcdcbccfe8db96a296a396a496a596a696a796a896a9e8de96aae8dab1fa96ab96ac96ad96ae96af96b096b196b296b396b4b0d8c4b3b8ccc6e2c8bec8e196b596b696b7e8cf,
 .lit 128 0xe8d4e8d696b8b9f1e8d8d7f596b9c4fb96bae8dc96bb96bcb2e996bd96be96bfe8d196c096c1bced96c296c3bfc2e8cdd6f996c4c1f8b2f196c596c696c796c896c996ca96cb96cce8df96cdcac1e8d996ce96cf96d096d1d5a496d2b1ead5bbe8cee8d0b6b0e8d396d3e8ddc0b896d4caf796d5cba896d696d7c6dcc0f596d896d996da96db96dce8e996dd96de96dfd0a396e096e196e296e396e496e596e6e8f2d6ea96e796e896e996ea96eb96ec96ede8e0e8e196ee96ef96f0d1f9bacbb8f996f196f2b8f1d4d4e8ef96f3e8eee8ecb9f0ccd2e8e6cea6bff296f4b0b8e8f1e8f096f5d7c096f6e8e496f7cda9c9a396f8bbb8bddbe8ea96f996fa96fb,
 .lit 128 0x96fc96fd96fe9740974197429743e8e2e8e3e8e5b5b5e8e7c7c5e8ebe8edbdb0d7ae9744e8f897459746974797489749974a974b974ce8f5974dcdb0e8f6974e974f9750975197529753975497559756c1ba9757e8e89758c3b7b0f09759975a975b975c975d975e975f9760e8f4976197629763e8f7976497659766b9a3976797689769976a976b976c976d976e976f9770c9d2977197729773c3cecee0c0e69774977597769777cbf39778ccddd0b59779977acae1977be8f3977c977d977e9780978197829783978497859786bcec9787e8f997889789978a978b978c978dc3de978ec6e5978fb9f79790979197929793b0f497949795d7d897969797bcac,
 .lit 58 0x9798c5ef9799979a979b979c979dccc4979e979fe9a697a097a197a297a397a497a597a697a797a897a9c9ad97aae9a2c0e297ab97ac97adbfc397ae97af97b0e8feb9d797b1e8fb97b297b397b497b5e9a497b697b797b8d2ce97b997ba97bb97bc97bde9a397bed6b2d7b597bfe9a797c0bdb7,
 .run 0x97c1 12,
 .lit 36 0xe8fce8fd97cd97ce97cfe9a197d097d197d297d397d497d597d697d7cdd697d897d9d2ac97da97db97dce9b297dd97de97df97e0e9a997e197e297e3b4aa97e4b4bb97e597e6e9ab,
 .run 0x97e7 17,
 .lit 128 0xd0a897f897f9e9a597fa97fbb3fe97fc97fde9acc0e397fee9aa98409841e9b998429843e9b89844984598469847e9ae98489849e8fa984a984be9a8984c984d984e984f9850bface9b1e9ba98519852c2a5985398549855e9af9856b8c59857e9ad9858d3dce9b4e9b5e9b79859985a985be9c7985c985d985e985f98609861c0c6e9c598629863e9b098649865e9bbb0f19866986798689869986a986b986c986d986e986fe9bcd5a598709871e9be9872e9bf987398749875e9c198769877c1f198789879c8b6987a987b987ce9bd987d987e988098819882e9c29883988498859886988798889889988ae9c3988be9b3988ce9b6988dbbb1988e988f9890,
 .lit 13 0xe9c0989198929893989498959896bcf7989798989899e9c4e9c6,
 .run 0x989a 12,
 .lit 30 0xe9ca98a698a798a898a9e9ce98aa98ab98ac98ad98ae98af98b098b198b298b3b2db98b4e9c898b598b698b798b898b998ba98bb98bc98bd98beb7ae,
 .run 0x98bf 12,
 .lit 128 0xe9cbe9cc98cb98cc98cd98ce98cf98d0d5c198d1c4a398d298d398d498d598d698d7e9d898d8bae198d998da98db98dce9c998ddd3a398de98df98e0e9d498e198e298e398e498e598e698e7e9d7e9d098e898e998ea98eb98ece9cf98ed98eec7c198ef98f098f198f298f398f498f598f6e9d298f798f898f998fa98fb98fc98fde9d9b3c898fee9d399409941994299439944cff0994599469947e9cd99489949994a994b994c994d994e994f995099519952b3f79953995499559956995799589959e9d6995a995be9da995c995d995eccb4995f99609961cfad99629963996499659966996799689969996ae9d5996be9dce9db996c996d996e996f9970,
 .lit 22 0xe9de99719972997399749975997699779978e9d19979997a997b997c997d997e99809981e9dd9982e9dfc3ca,
 .run 0x9983 115,
 .lit 45 0xc7b7b4cebbb6d0c0eca399f699f7c5b799f899f999fa99fb99fc99fd99fe9a409a419a42d3fb9a439a449a459a46eca49a47eca5c6db9a489a499a4abfee9a4b9a4c9a4d9a4eeca69a4f9a50eca7d0aa9a51c7b89a529a53b8e8,
 .run 0x9a54 12,
 .lit 18 0xeca89a609a619a629a639a649a659a669a67d6b9d5fdb4cbb2bdcee4c6e79a689a69cde1,
 .run 0x9a6a 14,
 .lit 128 0xb4f59a78cbc0bcdf9a799a7a9a7b9a7ce9e2e9e3d1eae9e59a7db4f9e9e49a7ed1b3cae2b2d09a80e9e89a819a829a839a84e9e6e9e79a859a86d6b39a879a889a89e9e9e9ea9a8a9a8b9a8c9a8d9a8ee9eb9a8f9a909a919a929a939a949a959a96e9ec9a979a989a999a9a9a9b9a9c9a9d9a9eecafc5b9b6ce9a9fd2f39aa09aa19aa29aa39aa49aa59aa6b5ee9aa7bbd9ecb19aa89aa9d2e39aaa9aab9aac9aad9aaecee39aafc4b89ab0c3bf9ab19ab2b6bed8b9b1c8b1cfb1d1c5fe9ab3b1d09ab4c3ab9ab59ab69ab79ab89ab9d5b19aba9abb9abc9abd9abe9abf9ac09ac1eba4bac19ac29ac39ac4ccba9ac59ac69ac7eba59ac8eba79ac99aca9acb,
 .lit 128 0xeba89acc9acd9aceeba69acf9ad09ad19ad29ad39ad49ad5eba9ebabebaa9ad69ad79ad89ad99adaebac9adbcacfd8b5c3f19adcc3a5c6f8ebadc4ca9addebaeebafebb0b7d59ade9adf9ae0b7fa9ae1ebb1c7e29ae2ebb39ae3baa4d1f5b0b1ebb2ebb49ae49ae59ae6b5aac2c8c7e89ae7ebb59ae8cbaee3df9ae99aead3c09aeb9aec9aed9aeed9db9aef9af0cda1d6adc7f39af19af29af3d9e0bbe39af4babae3e29af59af69af79af89af9cfab9afa9afb9afce3e0c9c79afdbab99afe9b409b41d1b4e3e1c8eab9afbdadb3d8cedb9b429b43ccc09b449b459b46e3e8e3e9cdf49b479b489b499b4a9b4bccad9b4cbcb39b4de3ea9b4ee3eb9b4f9b50,
 .lit 128 0xd0da9b519b529b53c6fbb7da9b549b55c7dfd2caced69b56e3e4e3ec9b57c9f2b3c19b589b59e3e79b5a9b5bc6e3e3e59b5c9b5dedb3e3e69b5e9b5f9b609b61c9b39b62c5e69b639b649b65b9b59b66c3bb9b67e3e3c5bdc1a4c2d9b2d79b68e3edbba6c4ad9b69e3f0beda9b6a9b6be3fbe3f5bad39b6c9b6d9b6e9b6fb7d0d3cd9b70d6ced5d3b9c1d5b4d1d89b719b729b739b74d0b9c7f69b759b769b77c8aab2b49b78c3da9b799b7a9b7be3ee9b7c9b7de3fce3efb7a8e3f7e3f49b7e9b809b81b7ba9b829b83c5a29b84e3f6c5ddb2a8c6fc9b85c4e09b869b87d7a29b88c0e1e3f99b899b8ae3fae3fdcca9e3f39b8bd3be9b8cb1c3edb4e3f1e3f2,
 .lit 128 0x9b8de3f8d0bac6c3d4f3e3fe9b8e9b8fbde09b909b91e4a79b929b93e4a69b949b959b96d1f3e4a39b97e4a99b989b999b9ac8f79b9b9b9c9b9d9b9ecfb49b9fe4a8e4aec2e59ba09ba1b6b49ba29ba39ba49ba59ba69ba7bdf29ba8e4a29ba99baabae9e4aa9bab9bace4ac9bad9baeb6fdd6dee4b29bafe4ad9bb09bb19bb2e4a19bb3bbeecdddc7a2c5c99bb49bb5c1f79bb6e4a49bb7c7b3bdacbdbde4a59bb8d7c7b2e29bb9e4abbcc3e4af9bbabbebe4b0c5a8e4b19bbb9bbc9bbd9bbed5e3bfa39bbfe4ba9bc0e4b79bc1e4bb9bc29bc3e4bd9bc49bc5c6d69bc69bc7bac6c0cb9bc89bc99bcab8a1e4b49bcb9bcc9bcd9bced4a19bcf9bd0baa3bdfe,
 .lit 128 0x9bd19bd29bd3e4bc9bd49bd59bd69bd79bd8cdbf9bd99bdac4f99bdb9bdccffbc9e69bdd9bded3bf9bdfcfd19be09be1e4b39be2e4b8e4b9cce99be39be49be59be69be7ccce9be8c0d4e4b5c1b0e4b6ced09be9bbc1b5d39beac8f3bda7d5c7c9acb8a2e4ca9beb9bece4ccd1c49bed9beed2ba9bef9bf0baad9bf19bf2bad49bf39bf49bf59bf69bf79bf8e4c3b5ed9bf99bfa9bfbd7cde4c0cffde4bf9bfc9bfd9bfec1dcccca9c409c419c429c43cae79c449c459c469c47c4d79c48ccd4e4c89c499c4a9c4be4c7e4c19c4ce4c4b5ad9c4d9c4ed3d99c4fe4c69c509c519c529c53d2f9b4e39c54bbb49c559c56c9ee9c57b4be9c589c599c5abbec9c5b,
 .lit 118 0xd1cd9c5cccededb59c5d9c5e9c5f9c609c619c629c639c64c7e59c659c669c679c68d4a89c69e4cbd7d5e4c29c6abda5e4c59c6b9c6cd3e69c6de4c9c9f89c6e9c6fe4be9c709c71d3e59c729c73c7feb6c99c74d4fcb2b3e4d79c759c769c77cec29c78e4cd9c79cebc9c7ab8db9c7b9c7ce4d69c7dbfca9c7e9c809c81d3ce9c82c3ec9c839c849c859c869c879c889c899c8ac5c8e4d89c8b9c8c9c8d9c8e9c8f9c909c919c92cdc4e4cf9c939c949c959c96e4d4e4d59c97bafe9c98cfe69c999c9ad5bf9c9b9c9c9c9de4d29c9e9c9f9ca09ca19ca29ca39ca49ca59ca69ca79ca8e4d09ca99caae4ce,
 .run 0x9cab 15,
 .lit 128 0xcde5caaa9cba9cbb9cbcc0a39cbdbda6e4d39cbe9cbfb8c89cc09cc19cc29cc39cc4e4e7d4b49cc59cc69cc79cc89cc99cca9ccbe4db9ccc9ccd9ccec1ef9ccf9cd0e4e99cd19cd2d2e79cd39cd4e4df9cd5e4e09cd69cd7cfaa9cd89cd99cda9cdbcbdd9cdce4dae4d19cdde4e59cdec8dce4e39cdf9ce0c4e7e4e29ce1e4e19ce29ce39ce4b3fce4e89ce59ce69ce79ce8b5e19ce99cea9cebd7cc9cec9ced9ceee4e69cefbbac9cf0d7d2cccfebf89cf1e4e49cf29cf3b9f69cf49cf59cf6d6cde4d9e4dcc2fae4de9cf7c2cbc0c4c2d09cf8b1f5ccb29cf99cfa9cfb9cfc9cfd9cfe9d409d419d429d43b5ce9d449d459d469d47e4ef9d489d499d4a9d4b,
 .lit 128 0x9d4c9d4d9d4e9d4fc6af9d509d519d52c6e19d539d54e4f59d559d569d579d589d59c2a99d5a9d5b9d5cc0ecd1dde4ee9d5d9d5e9d5f9d609d619d629d639d649d659d66c4ae9d679d689d69e4ed9d6a9d6b9d6c9d6de4f6e4f4c2fe9d6ee4dd9d6fe4f09d70cafe9d71d5c49d729d73e4f19d749d759d769d779d789d799d7ad1fa9d7b9d7c9d7d9d7e9d809d819d82e4ebe4ec9d839d849d85e4f29d86ceab9d879d889d899d8a9d8b9d8c9d8d9d8e9d8f9d90c5cb9d919d929d93c7b19d94c2ba9d959d969d97e4ea9d989d999d9ac1ca9d9b9d9c9d9d9d9e9d9f9da0ccb6b3b19da19da29da3e4fb9da4e4f39da59da69da7e4fa9da8e4fd9da9e4fc9daa,
 .lit 17 0x9dab9dac9dad9dae9daf9db0b3ce9db19db29db3b3bae4f79db49db5e4f9e4f8c5ec,
 .run 0x9db6 13,
 .lit 84 0xc0bd9dc39dc49dc59dc6d4e89dc79dc89dc99dca9dcbe5a29dcc9dcd9dce9dcf9dd09dd19dd29dd39dd49dd59dd6b0c49dd79dd8e5a49dd99ddae5a39ddb9ddc9ddd9dde9ddf9de0bca49de1e5a59de29de39de49de59de69de7e5a19de89de99dea9deb9dec9ded9deee4feb1f49def9df09df19df29df39df49df59df69df79df89df9e5a89dfae5a9e5a69dfb9dfc9dfd9dfe9e409e419e429e439e449e459e469e47e5a7e5aa,
 .run 0x9e48 33,
 .lit 41 0xc6d99e699e6a9e6b9e6c9e6d9e6e9e6f9e70e5abe5ad9e719e729e739e749e759e769e77e5ac9e789e799e7a9e7b9e7c9e7d9e7e9e809e819e829e839e849e859e869e879e889e89e5af9e8a9e8b9e8ce5ae,
 .run 0x9e8d 18,
 .lit 4 0xb9e09e9f9ea0e5b0,
 .run 0x9ea1 14,
 .lit 1 0xe5b1,
 .run 0x9eaf 12,
 .lit 51 0xbbf0ece1c3f09ebbb5c6bbd29ebc9ebd9ebe9ebfc1e9d4ee9ec0bec49ec19ec29ec3d7c69ec4d4d6b2d3ecbe9ec59ec69ec79ec8eac19ec99eca9ecbc2afb4b69ecc9ecd9eced1d79ecf9ed09ed1b3b49ed2c8b2bfbbecc09ed39ed4d6cb9ed59ed6ecbfecc1,
 .run 0x9ed7 13,
 .lit 32 0xecc5bee6ccbfc5dabebc9ee4ecc69ee5b1fe9ee69ee79ee8ecc4d5a8b5e39ee9ecc2c1b6b3e39eea9eebecc3cbb8c0c3ccfe9eec9eed9eee9eefc1d29ef0ecc8,
 .run 0x9ef1 13,
 .lit 95 0xbae6c0d39efed6f29f409f419f42d1cc9f439f449f459f46bfbe9f47b7b3c9d5ecc7bbe29f48ccccbdfdc8c89f49cfa99f4a9f4b9f4c9f4d9f4e9f4f9f50cde99f51c5eb9f529f539f54b7e99f559f569f579f589f599f5a9f5b9f5c9f5d9f5e9f5fd1c9bab89f609f619f629f639f64ecc99f659f66ecca9f67bbc0eccb9f68ece2b1bab7d99f699f6a9f6b9f6c9f6d9f6e9f6f9f709f719f729f73bdb99f749f759f769f779f789f799f7a9f7becccd1e6eccd9f7c9f7d9f7e9f80c8bb,
 .run 0x9f81 14,
 .lit 10 0xecd19f8f9f909f919f92ecd39f93bbcd9f94bce5,
 .run 0x9f95 13,
 .lit 128 0xeccf9fa2c9b79fa39fa49fa59fa69fa7c3ba9fa8ece3d5d5ecd09fa99faa9fab9fac9fadd6f39fae9faf9fb0ecd2ecce9fb19fb29fb39fb4ecd49fb5ecd59fb69fb7c9bf9fb89fb99fba9fbb9fbc9fbdcfa89fbe9fbf9fc09fc19fc2d0dc9fc39fc49fc59fc6d1ac9fc79fc89fc99fcac8db9fcb9fcc9fcdecd6cef59fce9fcf9fd09fd19fd2caececda9fd39fd49fd59fd69fd79fd89fd9ecd99fda9fdb9fdcb0be9fdd9fde9fdf9fe09fe19fe2ecd79fe3ecd89fe49fe59fe6ece49fe79fe89fe99fea9feb9fec9fed9fee9fefc8bc9ff09ff19ff29ff39ff49ff59ff69ff79ff89ff9c1c79ffa9ffb9ffc9ffd9ffeecdcd1e0a040a041a042a043a044a045,
 .lit 30 0xa046a047a048a049ecdba04aa04ba04ca04dd4efa04eecdda04fa050a051a052a053a054dbc6a055a056a057a058a059a05aa05ba05ca05da05eecde,
 .run 0xa05f 12,
 .lit 1 0xb1ac,
 .run 0xa06b 20,
 .lit 120 0xa080a081ecdfa082a083a084a085a086a087a088a089a08aa08bece0a08cd7a6a08dc5c0a08ea08fa090ebbcb0aea091a092a093bef4b8b8d2afb0d6b5f9a094d8b3a095cbaca096e3dda097a098a099a09aa09ba09ca09dc6acb0e6a09ea09fa0a0c5c6ebb9a0a1a0a2a0a3a0a4ebbaa0a5a0a6a0a7ebbba0a8a0a9d1c0a0aac5a3a0abeaf2a0acc4b2a0adc4b5c0cea0aea0afa0b0eaf3c4c1a0b1ceefa0b2a0b3a0b4a0b5eaf0eaf4a0b6a0b7c9fca0b8a0b9c7a3a0baa0bba0bcccd8cefea0bda0bea0bfeaf5eaf6cfacc0e7a0c0a0c1eaf7a0c2a0c3a0c4a0c5a0c6b6bfeaf8a0c7eaf9a0c8eafaa0c9a0caeafb,
 .run 0xa0cb 12,
 .lit 1 0xeaf1,
 .run 0xa0d7 12,
 .lit 128 0xc8aee1eba0e3b7b8e1eca0e4a0e5a0e6e1eda0e7d7b4e1eee1efd3cca0e8a0e9a0eaa0eba0eca0eda0eee1f1bff1e1f0b5d2a0efa0f0a0f1b1b7a0f2a0f3a0f4a0f5e1f3e1f2a0f6bafca0f7e1f4a0f8a0f9a0faa0fbb9b7a0fcbed1a0fda0feaa40aa41c4fcaa42baddbdc6aa43aa44aa45aa46aa47aa48e1f5e1f7aa49aa4ab6c0cfc1caa8e1f6d5f8d3fce1f8e1fce1f9aa4baa4ce1fac0eaaa4de1fee2a1c0c7aa4eaa4faa50aa51e1fbaa52e1fdaa53aa54aa55aa56aa57aa58e2a5aa59aa5aaa5bc1d4aa5caa5daa5eaa5fe2a3aa60e2a8b2fee2a2aa61aa62aa63c3cdb2c2e2a7e2a6aa64aa65e2a4e2a9aa66aa67e2abaa68aa69aa6ad0c9d6edc3a8,
 .lit 70 0xe2acaa6bcfd7aa6caa6de2aeaa6eaa6fbaefaa70aa71e9e0e2ade2aaaa72aa73aa74aa75bbabd4b3aa76aa77aa78aa79aa7aaa7baa7caa7daa7eaa80aa81aa82aa83e2b0aa84aa85e2afaa86e9e1aa87aa88aa89aa8ae2b1aa8baa8caa8daa8eaa8faa90aa91aa92e2b2aa93aa94aa95aa96aa97aa98aa99aa9aaa9baa9caa9de2b3cca1aa9ee2b4aa9faaa0,
 .run 0xab40 12,
 .lit 128 0xe2b5ab4cab4dab4eab4fab50d0feab51ab52c2caab53d3f1ab54cdf5ab55ab56e7e0ab57ab58e7e1ab59ab5aab5bab5cbec1ab5dab5eab5fab60c2eaab61ab62ab63e7e4ab64ab65e7e3ab66ab67ab68ab69ab6aab6bcde6ab6cc3b5ab6dab6ee7e2bbb7cfd6ab6fc1e1e7e9ab70ab71ab72e7e8ab73ab74e7f4b2a3ab75ab76ab77ab78e7eaab79e7e6ab7aab7bab7cab7dab7ee7ece7ebc9baab80ab81d5e4ab82e7e5b7a9e7e7ab83ab84ab85ab86ab87ab88ab89e7eeab8aab8bab8cab8de7f3ab8ed6e9ab8fab90ab91ab92e7edab93e7f2ab94e7f1ab95ab96ab97b0e0ab98ab99ab9aab9be7f5ab9cab9dab9eab9faba0ac40ac41ac42ac43ac44ac45,
 .lit 68 0xac46ac47ac48ac49ac4ac7f2ac4bc0c5c0edac4cac4dc1f0e7f0ac4eac4fac50ac51e7f6cbf6ac52ac53ac54ac55ac56ac57ac58ac59ac5ae8a2e8a1ac5bac5cac5dac5eac5fac60d7c1ac61ac62e7fae7f9ac63e7fbac64e7f7ac65e7feac66e7fdac67e7fcac68ac69c1d5c7d9c5fdc5c3ac6aac6bac6cac6dac6ec7edac6fac70ac71ac72e8a3,
 .run 0xac73 12,
 .lit 18 0xac80ac81ac82ac83ac84ac85ac86e8a6ac87e8a5ac88e8a7baf7e7f8e8a4ac89c8f0c9aa,
 .run 0xac8a 13,
 .lit 61 0xe8a9ac97ac98b9e5ac99ac9aac9bac9cac9dd1fee8a8ac9eac9faca0ad40ad41ad42e8aaad43e8ade8aead44c1a7ad45ad46ad47e8afad48ad49ad4ae8b0ad4bad4ce8acad4de8b4ad4ead4fad50ad51ad52ad53ad54ad55ad56ad57ad58e8abad59e8b1ad5aad5bad5cad5dad5ead5fad60ad61e8b5e8b2e8b3,
 .run 0xad62 16,
 .lit 1 0xe8b7,
 .run 0xad72 13,
 .lit 128 0xad80ad81ad82ad83ad84ad85ad86ad87ad88ad89e8b6ad8aad8bad8cad8dad8ead8fad90ad91ad92b9cfad93f0acad94f0adad95c6b0b0eac8bfad96cddfad97ad98ad99ad9aad9bad9cad9dcecdeab1ad9ead9fada0ae40eab2ae41c6bfb4c9ae42ae43ae44ae45ae46ae47ae48eab3ae49ae4aae4bae4cd5e7ae4dae4eae4fae50ae51ae52ae53ae54ddf9ae55eab4ae56eab5ae57eab6ae58ae59ae5aae5bb8cadfb0c9f5ae5cccf0ae5dae5ec9faae5fae60ae61ae62ae63c9fbae64ae65d3c3cba6ae66b8a6f0aeb1c2ae67e5b8ccefd3c9bcd7c9eaae68b5e7ae69c4d0b5e9ae6aeeaebbadae6bae6ce7deae6deeafae6eae6fae70ae71b3a9ae72ae73,
 .lit 128 0xeeb2ae74ae75eeb1bde7ae76eeb0ceb7ae77ae78ae79ae7ac5cfae7bae7cae7dae7ec1f4dbceeeb3d0f3ae80ae81ae82ae83ae84ae85ae86ae87c2d4c6e8ae88ae89ae8ab7acae8bae8cae8dae8eae8fae90ae91eeb4ae92b3ebae93ae94ae95bbfbeeb5ae96ae97ae98ae99ae9ae7dcae9bae9cae9deeb6ae9eae9fbdaeaea0af40af41af42f1e2af43af44af45cae8af46d2c9f0daaf47f0dbaf48f0dcc1c6af49b8edbeceaf4aaf4bf0deaf4cc5b1f0ddd1f1af4df0e0b0ccbdeaaf4eaf4faf50af51af52d2dff0dfaf53b4afb7e8f0e6f0e5c6a3f0e1f0e2b4c3af54af55f0e3d5eeaf56af57ccdbbed2bcb2af58af59af5af0e8f0e7f0e4b2a1af5bd6a2,
 .lit 128 0xd3b8beb7c8acaf5caf5df0eaaf5eaf5faf60af61d1f7af62d6ccbadbf0e9af63b6bbaf64af65cdb4af66af67c6a6af68af69af6ac1a1f0ebf0eeaf6bf0edf0f0f0ecaf6cbbbef0efaf6daf6eaf6faf70ccb5f0f2af71af72b3d5af73af74af75af76b1d4af77af78f0f3af79af7af0f4f0f6b4e1af7bf0f1af7cf0f7af7daf7eaf80af81f0faaf82f0f8af83af84af85f0f5af86af87af88af89f0fdaf8af0f9f0fcf0feaf8bf1a1af8caf8daf8ecec1f1a4af8ff1a3af90c1f6f0fbcaddaf91af92b4f1b1f1ccb1af93f1a6af94af95f1a7af96af97f1acd5cef1a9af98af99c8b3af9aaf9baf9cf1a2af9df1abf1a8f1a5af9eaf9ff1aaafa0b040b041b042,
 .lit 128 0xb043b044b045b046b0a9f1adb047b048b049b04ab04bb04cf1afb04df1b1b04eb04fb050b051b052f1b0b053f1aeb054b055b056b057d1a2b058b059b05ab05bb05cb05db05ef1b2b05fb060b061f1b3b062b063b064b065b066b067b068b069b9efb06ab06bb5c7b06cb0d7b0d9b06db06eb06fd4edb070b5c4b071bdd4bbcaf0a7b072b073b8deb074b075f0a8b076b077b0a8b078f0a9b079b07acdeeb07bb07cf0aab07db07eb080b081b082b083b084b085b086b087f0abb088b089b08ab08bb08cb08db08eb08fb090c6a4b091b092d6e5f1e4b093f1e5b094b095b096b097b098b099b09ab09bb09cb09dc3f3b09eb09fd3dbb0a0b140d6d1c5e8b141,
 .lit 128 0xd3afb142d2e6b143b144eec1b0bbd5b5d1cebce0bad0b145bff8b146b8c7b5c1c5ccb147b148caa2b149b14ab14bc3cbb14cb14db14eb14fb150eec2b151b152b153b154b155b156b157b158c4bfb6a2b159edecc3a4b15ad6b1b15bb15cb15dcfe0edefb15eb15fc5ceb160b6dcb161b162caa1b163b164ededb165b166edf0edf1c3bcb167bfb4b168edeeb169b16ab16bb16cb16db16eb16fb170b171b172b173edf4edf2b174b175b176b177d5e6c3dfb178edf3b179b17ab17bedf6b17cd5a3d1a3b17db17eb180edf5b181c3d0b182b183b184b185b186edf7bff4beecedf8b187ccf7b188d1dbb189b18ab18bd7c5d5f6b18cedfcb18db18eb18fedfb,
 .lit 37 0xb190b191b192b193b194b195b196b197edf9edfab198b199b19ab19bb19cb19db19eb19fedfdbea6b1a0b240b241b242b243cbafeea1b6bdb244eea2c4c0b245edfeb246b247bddeb2c7,
 .run 0xb248 12,
 .lit 26 0xb6c3b254b255b256eea5d8baeea3eea6b257b258b259c3e9b3f2b25ab25bb25cb25db25eb25feea7eea4cfb9b260b261eea8c2f7,
 .run 0xb262 12,
 .lit 33 0xeea9eeaab26edeabb26fb270c6b3b271c7c6b272d6f5b5c9b273cbb2b274b275b276eeabb277b278cdabb279eeacb27ab27bb27cb27db27ed5b0b280eeadb281f6c4,
 .run 0xb282 13,
 .lit 128 0xdbc7b28fb290b291b292b293b294b295b296b297b4a3b298b299b29ac3acf1e6b29bb29cb29db29eb29fcab8d2d3b2a0d6aab340eff2b341bed8b342bdc3eff3b6ccb0abb343b344b345b346caafb347b348edb6b349edb7b34ab34bb34cb34dcef9b7afbff3edb8c2ebc9b0b34eb34fb350b351b352b353edb9b354b355c6f6bfb3b356b357b358edbcc5f8b359d1d0b35ad7a9edbaedbbb35bd1e2b35cedbfedc0b35dedc4b35eb35fb360edc8b361edc6edced5e8b362edc9b363b364edc7edbeb365b366c5e9b367b368b369c6c6b36ab36bc9e9d4d2edc1edc2edc3edc5b36cc0f9b36db4a1b36eb36fb370b371b9e8b372edd0b373b374b375b376edd1,
 .lit 17 0xb377edcab378edcfb379cef8b37ab37bcbb6edccedcdb37cb37db37eb380b381cff5,
 .run 0xb382 12,
 .lit 128 0xedd2c1f2d3b2edcbc8b7b38eb38fb390b391b392b393b394b395bcefb396b397b398b399c5f0b39ab39bb39cb39db39eb39fb3a0b440b441b442edd6b443b5efb444b445c2b5b0adcbe9b446b447b1aeb448edd4b449b44ab44bcdebb5e2b44cedd5edd3edd7b44db44eb5fab44fedd8b450edd9b451eddcb452b1ccb453b454b455b456b457b458b459b45ac5f6bceeeddaccbcb2eab45bb45cb45db45eeddbb45fb460b461b462c4ebb463b464b4c5b465b466b467b0f5b468b469b46aeddfc0dab4e8b46bb46cb46db46ec5cdb46fb470b471edddbfc4b472b473b474eddeb475b476b477b478b479b47ab47bb47cb47db47eb480b481b482b483c4a5b484,
 .lit 59 0xb485b486ede0b487b488b489b48ab48bede1b48cede3b48db48ec1d7b48fb490bbc7b491b492b493b494b495b496bdb8b497b498b499ede2b49ab49bb49cb49db49eb49fb4a0b540b541b542b543b544b545ede4b546b547b548b549b54ab54bb54cb54db54eb54fede6b550b551b552b553b554ede5,
 .run 0xb555 15,
 .lit 103 0xede7b564b565b566b567b568cabeeceac0f1b569c9e7b56aecebc6eeb56bb56cb56db56eececb56fc6edecedb570b571b572b573b574b575b576b577b578ecf0b579b57ad7e6ecf3b57bb57cecf1eceeecefd7a3c9f1cbeeecf4b57decf2b57eb580cfe9b581ecf6c6b1b582b583b584b585bcc0b586ecf5b587b588b589b58ab58bb58cb58db5bbbbf6b58eecf7b58fb590b591b592b593d9f7bdfbb594b595c2bbecf8b596b597b598b599ecf9b59ab59bb59cb59db8a3b59eb59fb5a0b640b641b642b643b644b645b646ecfa,
 .run 0xb647 12,
 .lit 125 0xecfbb653b654b655b656b657b658b659b65ab65bb65cb65decfcb65eb65fb660b661b662d3edd8aec0ebb663c7ddbaccb664d0e3cbbdb665cdbab666b667b8d1b668b669b1fcb66ac7efb66bd6d6b66cb66db66ebfc6c3ebb66fb670eff5b671b672c3d8b673b674b675b676b677b678d7e2b679b67ab67beff7b3d3b67cc7d8d1edb67dd6c8b67eeff8b680eff6b681bbfdb3c6b682b683b684b685b686b687b688bdd5b689b68ad2c6b68bbbe0b68cb68dcfa1b68eeffceffbb68fb690eff9b691b692b693b694b3ccb695c9d4cbb0b696b697b698b699b69aeffeb69bb69cb0deb69db69ed6c9b69fb6a0b740effdb741b3edb742b743f6d5,
 .run 0xb744 15,
 .lit 37 0xcec8b753b754b755f0a2b756f0a1b757b5bebcdabbfcb758b8e5b759b75ab75bb75cb75db75ec4c2b75fb760b761b762b763b764b765b766b767b768f0a3b769b76ab76bb76cb76dcbeb,
 .run 0xb76e 17,
 .lit 128 0xb780b781b782b783b784b785b786f0a6b787b788b789d1a8b78abebfc7eef1b6f1b7bfd5b78bb78cb78db78eb4a9f1b8cdbbb78fc7d4d5adb790f1b9b791f1bab792b793b794b795c7cfb796b797b798d2a4d6cfb799b79af1bbbdd1b4b0bebdb79bb79cb79db4dcced1b79ebfdff1bdb79fb7a0b840b841bffaf1bcb842f1bfb843b844b845f1bef1c0b846b847b848b849b84af1c1b84bb84cb84db84eb84fb850b851b852b853b854b855c1feb856b857b858b859b85ab85bb85cb85db85eb85fb860c1a2b861b862b863b864b865b866b867b868b869b86acafab86bb86cd5beb86db86eb86fb870bebabeb9d5c2b871b872bfa2b873cdaff1b5b874b875,
 .lit 128 0xb876b877b878b879bddfb87ab6cbb87bb87cb87db87eb880b881b882b883b884d6f1f3c3b885b886f3c4b887b8cdb888b889b88af3c6f3c7b88bb0cab88cf3c5b88df3c9cbf1b88eb88fb890f3cbb891d0a6b892b893b1caf3c8b894b895b896f3cfb897b5d1b898b899f3d7b89af3d2b89bb89cb89df3d4f3d3b7fbb89eb1bfb89ff3cef3cab5dab8a0f3d0b940b941f3d1b942f3d5b943b944b945b946f3cdb947bce3b948c1fdb949f3d6b94ab94bb94cb94db94eb94ff3dab950f3ccb951b5c8b952bdeef3dcb953b954b7a4bff0d6fecdb2b955b4f0b956b2dfb957f3d8b958f3d9c9b8b959f3ddb95ab95bf3deb95cf3e1b95db95eb95fb960b961b962,
 .lit 128 0xb963b964b965b966b967f3dfb968b969f3e3f3e2b96ab96bf3dbb96cbfeab96db3efb96ef3e0b96fb970c7a9b971bcf2b972b973b974b975f3ebb976b977b978b979b97ab97bb97cb9bfb97db97ef3e4b980b981b982b2adbbfeb983cbe3b984b985b986b987f3edf3e9b988b989b98ab9dcf3eeb98bb98cb98df3e5f3e6f3eac2e1f3ecf3eff3e8bcfdb98eb98fb990cfe4b991b992f3f0b993b994b995f3e7b996b997b998b999b99ab99bb99cb99df3f2b99eb99fb9a0ba40d7adc6aaba41ba42ba43ba44f3f3ba45ba46ba47ba48f3f1ba49c2a8ba4aba4bba4cba4dba4eb8ddf3f5ba4fba50f3f4ba51ba52ba53b4dbba54ba55ba56f3f6f3f7ba57ba58,
 .lit 66 0xba59f3f8ba5aba5bba5cc0baba5dba5ec0e9ba5fba60ba61ba62ba63c5f1ba64ba65ba66ba67f3fbba68f3faba69ba6aba6bba6cba6dba6eba6fba70b4d8ba71ba72ba73f3fef3f9ba74ba75f3fcba76ba77ba78ba79ba7aba7bf3fdba7cba7dba7eba80ba81ba82ba83ba84f4a1ba85ba86ba87ba88ba89ba8af4a3bbc9ba8bba8cf4a2,
 .run 0xba8d 13,
 .lit 22 0xf4a4ba9aba9bba9cba9dba9eba9fb2bef4a6f4a5baa0bb40bb41bb42bb43bb44bb45bb46bb47bb48bb49bcae,
 .run 0xbb4a 37,
 .lit 128 0xc3d7d9e1bb6fbb70bb71bb72bb73bb74c0e0f4ccd7d1bb75bb76bb77bb78bb79bb7abb7bbb7cbb7dbb7ebb80b7dbbb81bb82bb83bb84bb85bb86bb87f4cec1a3bb88bb89c6c9bb8ab4d6d5b3bb8bbb8cbb8df4d0f4cff4d1cbdabb8ebb8ff4d2bb90d4c1d6e0bb91bb92bb93bb94b7e0bb95bb96bb97c1b8bb98bb99c1bbf4d3beacbb9abb9bbb9cbb9dbb9eb4e2bb9fbba0f4d4f4d5beabbc40bc41f4d6bc42bc43bc44f4dbbc45f4d7f4dabc46bafdbc47f4d8f4d9bc48bc49bc4abc4bbc4cbc4dbc4eb8e2ccc7f4dcbc4fb2dabc50bc51c3d3bc52bc53d4e3bfb7bc54bc55bc56bc57bc58bc59bc5af4ddbc5bbc5cbc5dbc5ebc5fbc60c5b4bc61bc62bc63,
 .lit 9 0xbc64bc65bc66bc67bc68f4e9bc69bc6acfb5,
 .run 0xbc6b 14,
 .lit 7 0xcec9bc79bc7abc7bbc7cbc7dbc7e,
 .run 0xbc80 15,
 .lit 23 0xcbd8bc8fcbf7bc90bc91bc92bc93bdf4bc94bc95bc96d7cfbc97bc98bc99c0dbbc9abc9bbc9cbc9dbc9ebc9fbca0,
 .run 0xbd40 55,
 .lit 10 0xd0f5bd77bd78bd79bd7abd7bbd7cbd7dbd7ef4ea,
 .run 0xbd80 33,
 .run 0xbe40 13,
 .lit 9 0xf4ebbe4dbe4ebe4fbe50be51be52be53f4ec,
 .run 0xbe54 43,
 .run 0xbe80 33,
 .run 0xbf40 63,
 .lit 14 0xbf80f7e3bf81bf82bf83bf84bf85b7b1bf86bf87bf88bf89bf8af4ed,
 .run 0xbf8b 22,
 .run 0xc040 36,
 .lit 1 0xd7eb,
 .run 0xc064 24,
 .lit 128 0xf4eec07cc07dc07ee6f9bec0e6fabaece6fbcfcbe6fcd4bcbcb6e6fde6febccdc8d2ceb3e7a1c080b4bfe7a2c9b4b8d9c4c9c081d7ddc2dab7d7d6bdcec6b7c4c082c083c5a6e7a3cfdfe7a4e7a5e7a6c1b7d7e9c9f0cfb8d6afd6d5e7a7b0ede7a8e7a9c9dcd2efbeade7aab0f3c8debde1e7abc8c6c084e7acbbe6b8f8d1a4e7adc2e7bef8bdcacdb3e7aee7afbeeed0e5c085cbe7ccd0bccce7b0bca8d0f7e7b1c086d0f8e7b2e7b3b4c2e7b4e7b5c9feceacc3e0e7b7b1c1b3f1c087e7b8e7b9d7dbd5c0e7bac2ccd7bae7bbe7bce7bdbceac3e5c0c2e7bee7bfbca9c088e7c0e7c1e7b6b6d0e7c2c089e7c3e7c4bbbab5dec2c6b1e0e7c5d4b5e7c6b8bf,
 .lit 128 0xe7c8e7c7b7ecc08ae7c9b2f8e7cae7cbe7cce7cde7cee7cfe7d0d3a7cbf5e7d1e7d2e7d3e7d4c9c9e7d5e7d6e7d7e7d8e7d9bdc9e7daf3bec08bb8d7c08cc8b1c08dc08ec08fc090c091c092c093f3bfc094f3c0f3c1c095c096c097c098c099c09ac09bc09cc09dc09eb9decdf8c09fc0a0d8e8bab1c140c2deeeb7c141b7a3c142c143c144c145eeb9c146eeb8b0d5c147c148c149c14ac14beebbd5d6d7efc14cc14dc14ed6c3c14fc150eebdcaf0c151eebcc152c153c154c155eebec156c157c158c159eec0c15ac15beebfc15cc15dc15ec15fc160c161c162c163d1f2c164c7bcc165c3c0c166c167c168c169c16ab8e1c16bc16cc16dc16ec16fc1e7,
 .lit 128 0xc170c171f4c6d0dff4c7c172cfdbc173c174c8bac175c176f4c8c177c178c179c17ac17bc17cc17df4c9f4cac17ef4cbc180c181c182c183c184d9fab8fec185c186e5f1d3f0c187f4e0c188ceccc189c18ac18bb3e1c18cc18dc18ec18ff1b4c190d2eec191f4e1c192c193c194c195c196cfe8f4e2c197c198c7ccc199c19ac19bc19cc19dc19eb5d4b4e4f4e4c19fc1a0c240f4e3f4e5c241c242f4e6c243c244c245c246f4e7c247bab2b0bfc248f4e8c249c24ac24bc24cc24dc24ec24fb7add2edc250c251c252d2abc0cfc253bfbceba3d5dfeac8c254c255c256c257f1f3b6f8cba3c258c259c4cdc25af1e7c25bf1e8b8fbf1e9bac4d4c5b0d2c25c,
 .lit 64 0xc25df1eac25ec25fc260f1ebc261f1ecc262c263f1edf1eef1eff1f1f1f0c5d5c264c265c266c267c268c269f1f2c26ab6fac26bf1f4d2aedec7cbcac26cc26db3dcc26eb5a2c26fb9a2c270c271c4f4f1f5c272c273f1f6c274c275c276c1c4c1fbd6b0f1f7c277c278c279c27af1f8c27bc1aac27cc27dc27ec6b8c280bedb,
 .run 0xc281 14,
 .lit 9 0xf1f9b4cfc28fc290c291c292c293c294f1fa,
 .run 0xc295 12,
 .lit 128 0xc340edb2edb1c341c342cbe0d2dec343cbc1d5d8c344c8e2c345c0dfbca1c346c347c348c349c34ac34bebc1c34cc34dd0a4c34ed6e2c34fb6c7b8d8ebc0b8cec350ebbfb3a6b9c9d6abc351b7f4b7cac352c353c354bce7b7beebc6c355ebc7b0b9bfcfc356ebc5d3fdc357ebc8c358c359ebc9c35ac35bb7cec35cebc2ebc4c9f6d6d7d5cdd0b2ebcfceb8ebd0c35db5a8c35ec35fc360c361c362b1b3ebd2cca5c363c364c365c366c367c368c369c5d6ebd3c36aebd1c5dfebcecaa4ebd5b0fbc36bc36cbafac36dc36ed8b7f1e3c36febcaebcbebccebcdebd6e6c0ebd9c370bfe8d2c8ebd7ebdcb8ecebd8c371bdbac372d0d8c373b0b7c374ebddc4dc,
 .lit 33 0xc375c376c377c378d6acc379c37ac37bb4e0c37cc37dc2f6bcb9c37ec380ebdaebdbd4e0c6eac4d4ebdfc5a7d9f5c381b2b1c382ebe4c383bdc5c384c385c386ebe2,
 .run 0xc387 13,
 .lit 128 0xebe3c394c395b8acc396cdd1ebe5c397c398c399ebe1c39ac1b3c39bc39cc39dc39ec39fc6a2c3a0c440c441c442c443c444c445ccf3c446ebe6c447c0b0d2b8ebe7c448c449c44ab8afb8adc44bebe8c7bbcdf3c44cc44dc44eebeaebebc44fc450c451c452c453ebedc454c455c456c457d0c8c458ebf2c459ebeec45ac45bc45cebf1c8f9c45dd1fcebecc45ec45febe9c460c461c462c463b8b9cfd9c4e5ebefebf0ccdacdc8b0f2c464ebf6c465c466c467c468c469ebf5c46ab2b2c46bc46cc46dc46eb8e0c46febf7c470c471c472c473c474c475b1ecc476c477ccc5c4a4cfa5c478c479c47ac47bc47cebf9c47dc47eeca2c480c5f2c481ebfac482,
 .lit 40 0xc483c484c485c486c487c488c489c9c5c48ac48bc48cc48dc48ec48fe2dfebfec490c491c492c493cdceeca1b1dbd3b7c494c495d2dcc496c497c498ebfdc499ebfbc49ac49bc49cc49dc49ec49fc4a0,
 .run 0xc540 15,
 .lit 128 0xb3bcc54fc550c551eab0c552c553d7d4c554f4abb3f4c555c556c557c558c559d6c1d6c2c55ac55bc55cc55dc55ec55fd5e9becac560f4a7c561d2a8f4a8f4a9c562f4aabecbd3dfc563c564c565c566c567c9e0c9e1c568c569f3c2c56acae6c56bccf2c56cc56dc56ec56fc570c571e2b6cbb4c572cee8d6dbc573f4adf4aef4afc574c575c576c577f4b2c578babdf4b3b0e3f4b0c579f4b1bda2b2d5c57af4b6f4b7b6e6b2b0cfcff4b4b4acc57bf4b5c57cc57df4b8c57ec580c581c582c583f4b9c584c585cda7c586f4bac587f4bbc588c589c58af4bcc58bc58cc58dc58ec58fc590c591c592cbd2c593f4bdc594c595c596c597f4bec598c599c59a,
 .lit 128 0xc59bc59cc59dc59ec59ff4bfc5a0c640c641c642c643f4dec1bcbce8c644c9abd1dee5f5c645c646c647c648dcb3d2d5c649c64adcb4b0acdcb5c64bc64cbddac64ddcb9c64ec64fc650d8c2c651dcb7d3f3c652c9d6dcbadcb6c653dcbbc3a2c654c655c656c657dcbcdcc5dcbdc658c659cedfd6a5c65adccfc65bdccdc65cc65ddcd2bde6c2abc65edcb8dccbdccedcbeb7d2b0c5dcc7d0bedcc1bba8c65fb7bcdcccc660c661dcc6dcbfc7dbc662c663c664d1bfdcc0c665c666dccac667c668dcd0c669c66aceaddcc2c66bdcc3dcc8dcc9b2d4dcd1cbd5c66cd4b7dcdbdcdfcca6dce6c66dc3e7dcdcc66ec66fbfc1dcd9c670b0fab9b6dce5dcd3c671,
 .lit 128 0xdcc4dcd6c8f4bfe0c672c673c674c675c9bbc676c677c678b1bdc679d3a2c67ac67bdcdac67cc67ddcd5c67ec6bbc680dcdec681c682c683c684c685d7c2c3afb7b6c7d1c3a9dce2dcd8dcebdcd4c686c687dcddc688bea5dcd7c689dce0c68ac68bdce3dce4c68cdcf8c68dc68edce1dda2dce7c68fc690c691c692c693c694c695c696c697c698bcebb4c4c699c69ac3a3b2e7dcfac69bdcf2c69cdcefc69ddcfcdceed2f0b2e8c69ec8d7c8e3dcfbc69fdcedc6a0c740c741dcf7c742c743dcf5c744c745bea3dcf4c746b2ddc747c748c749c74ac74bdcf3bcf6dce8bbc4c74cc0f3c74dc74ec74fc750c751bcd4dce9dceac752dcf1dcf6dcf9b5b4c753,
 .lit 128 0xc8d9bbe7dcfedcfdd3abdda1dda3dda5d2f1dda4dda6dda7d2a9c754c755c756c757c758c759c75abac9dda9c75bc75cddb6ddb1ddb4c75dc75ec75fc760c761c762c763ddb0c6cec764c765c0f2c766c767c768c769c9afc76ac76bc76cdcecddaec76dc76ec76fc770ddb7c771c772dcf0ddafc773ddb8c774ddacc775c776c777c778c779c77ac77bddb9ddb3ddadc4aac77cc77dc77ec780dda8c0b3c1abddaaddabc781ddb2bbf1ddb5d3a8ddbac782ddbbc3a7c783c784ddd2ddbcc785c786c787ddd1c788b9bdc789c78abed5c78bbefac78cc78dbacac78ec78fc790c791ddcac792ddc5c793ddbfc794c795c796b2cbddc3c797ddcbb2a4ddd5c798,
 .lit 128 0xc799c79addbec79bc79cc79dc6d0ddd0c79ec79fc7a0c840c841ddd4c1e2b7c6c842c843c844c845c846ddceddcfc847c848c849ddc4c84ac84bc84cddbdc84dddcdccd1c84eddc9c84fc850c851c852ddc2c3c8c6bcceaeddccc853ddc8c854c855c856c857c858c859ddc1c85ac85bc85cddc6c2dcc85dc85ec85fc860c861c862d3a9d3aaddd3cff4c8f8c863c864c865c866c867c868c869c86adde6c86bc86cc86dc86ec86fc870ddc7c871c872c873dde0c2e4c874c875c876c877c878c879c87ac87bdde1c87cc87dc87ec880c881c882c883c884c885c886ddd7c887c888c889c88ac88bd6f8c88cddd9ddd8b8f0ddd6c88dc88ec88fc890c6cfc891,
 .lit 63 0xb6adc892c893c894c895c896dde2c897baf9d4e1dde7c898c899c89ab4d0c89bdddac89cbffbdde3c89ddddfc89eddddc89fc8a0c940c941c942c943c944b5d9c945c946c947c948dddbdddcdddec949bdafdde4c94adde5c94bc94cc94dc94ec94fc950c951c952ddf5c953c3c9c954c955cbe2c956c957c958c959ddf2,
 .run 0xc95a 13,
 .lit 128 0xd8e1c967c968c6d1c969ddf4c96ac96bc96cd5f4ddf3ddf0c96dc96eddecc96fddefc970dde8c971c972d0eec973c974c975c976c8d8ddeec977c978dde9c979c97addeacbf2c97bddedc97cc97db1cdc97ec980c981c982c983c984c0b6c985bcbbddf1c986c987ddf7c988ddf6ddebc989c98ac98bc98cc98dc5eec98ec98fc990ddfbc991c992c993c994c995c996c997c998c999c99ac99bdea4c99cc99ddea3c99ec99fc9a0ca40ca41ca42ca43ca44ca45ca46ca47ca48ddf8ca49ca4aca4bca4cc3efca4dc2fbca4eca4fca50d5e1ca51ca52ceb5ca53ca54ca55ca56ddfdca57b2ccca58ca59ca5aca5bca5cca5dca5eca5fca60c4e8cadfca61ca62,
 .lit 128 0xca63ca64ca65ca66ca67ca68ca69ca6ac7beddfaddfcddfedea2b0aab1ceca6bca6cca6dca6eca6fdeacca70ca71ca72ca73dea6bdb6c8efca74ca75ca76ca77ca78ca79ca7aca7bca7cca7dca7edea1ca80ca81dea5ca82ca83ca84ca85dea9ca86ca87ca88ca89ca8adea8ca8bca8cca8ddea7ca8eca8fca90ca91ca92ca93ca94ca95ca96deadca97d4ccca98ca99ca9aca9bdeb3deaadeaeca9cca9dc0d9ca9eca9fcaa0cb40cb41b1a1deb6cb42deb1cb43cb44cb45cb46cb47cb48cb49deb2cb4acb4bcb4ccb4dcb4ecb4fcb50cb51cb52cb53cb54d1a6deb5cb55cb56cb57cb58cb59cb5acb5bdeafcb5ccb5dcb5edeb0cb5fd0bdcb60cb61cb62deb4,
 .lit 59 0xcaeddeb9cb63cb64cb65cb66cb67cb68deb8cb69deb7cb6acb6bcb6ccb6dcb6ecb6fcb70debbcb71cb72cb73cb74cb75cb76cb77bde5cb78cb79cb7acb7bcb7cb2d8c3eacb7dcb7edebacb80c5bacb81cb82cb83cb84cb85cb86debccb87cb88cb89cb8acb8bcb8ccb8dccd9cb8ecb8fcb90cb91b7aa,
 .run 0xcb92 15,
 .lit 30 0xcc40cc41d4e5cc42cc43cc44debdcc45cc46cc47cc48cc49debfcc4acc4bcc4ccc4dcc4ecc4fcc50cc51cc52cc53cc54c4a2cc55cc56cc57cc58dec1,
 .run 0xcc59 16,
 .lit 3 0xdebecc69dec0,
 .run 0xcc6a 14,
 .lit 9 0xd5bacc78cc79cc7adec2cc7bcc7ccc7dcc7e,
 .run 0xcc80 12,
 .lit 128 0xf2aebba2c2b2c5b0c2c7cc8ccc8df2afcc8ecc8fcc90cc91cc92d0e9cc93cc94cc95d3ddcc96cc97cc98ebbdcc99cc9acc9bcc9ccc9dcc9ecc9fcca0b3e6f2b0cd40f2b1cd41cd42caadcd43cd44cd45cd46cd47cd48cd49bae7f2b3f2b5f2b4cbe4cfbaf2b2cab4d2cfc2eccd4acd4bcd4ccd4dcd4ecd4fcd50cec3f2b8b0f6f2b7cd51cd52cd53cd54cd55f2becd56b2cfcd57cd58cd59cd5acd5bcd5cd1c1f2bacd5dcd5ecd5fcd60cd61f2bcd4e9cd62cd63f2bbf2b6f2bff2bdcd64f2b9cd65cd66f2c7f2c4f2c6cd67cd68f2caf2c2f2c0cd69cd6acd6bf2c5cd6ccd6dcd6ecd6fcd70d6fbcd71cd72cd73f2c1cd74c7f9c9dfcd75f2c8b9c6b5b0cd76,
 .lit 128 0xcd77f2c3f2c9f2d0f2d6cd78cd79bbd7cd7acd7bcd7cf2d5cddccd7dd6ebcd7ecd80f2d2f2d4cd81cd82cd83cd84b8f2cd85cd86cd87cd88f2cbcd89cd8acd8bf2cec2f9cd8cd5ddf2ccf2cdf2cff2d3cd8dcd8ecd8ff2d9d3bccd90cd91cd92cd93b6eacd94caf1cd95b7e4f2d7cd96cd97cd98f2d8f2daf2ddf2dbcd99cd9af2dccd9bcd9ccd9dcd9ed1d1f2d1cd9fcdc9cda0cecfd6a9ce40f2e3ce41c3dbce42f2e0ce43ce44c0aff2ecf2dece45f2e1ce46ce47ce48f2e8ce49ce4ace4bce4cf2e2ce4dce4ef2e7ce4fce50f2e6ce51ce52f2e9ce53ce54ce55f2dfce56ce57f2e4f2eace58ce59ce5ace5bce5cce5dce5ed3acf2e5b2f5ce5fce60f2f2,
 .lit 128 0xce61d0abce62ce63ce64ce65f2f5ce66ce67ce68bbc8ce69f2f9ce6ace6bce6cce6dce6ece6ff2f0ce70ce71f2f6f2f8f2face72ce73ce74ce75ce76ce77ce78ce79f2f3ce7af2f1ce7bce7cce7dbafbce7eb5fbce80ce81ce82ce83f2eff2f7f2edf2eece84ce85ce86f2ebf3a6ce87f3a3ce88ce89f3a2ce8ace8bf2f4ce8cc8dace8dce8ece8fce90ce91f2fbce92ce93ce94f3a5ce95ce96ce97ce98ce99ce9ace9bc3f8ce9cce9dce9ece9fcea0cf40cf41cf42f2fdcf43cf44f3a7f3a9f3a4cf45f2fccf46cf47cf48f3abcf49f3aacf4acf4bcf4ccf4dc2ddcf4ecf4ff3aecf50cf51f3b0cf52cf53cf54cf55cf56f3a1cf57cf58cf59f3b1f3accf5a,
 .lit 87 0xcf5bcf5ccf5dcf5ef3aff2fef3adcf5fcf60cf61cf62cf63cf64cf65f3b2cf66cf67cf68cf69f3b4cf6acf6bcf6ccf6df3a8cf6ecf6fcf70cf71f3b3cf72cf73cf74f3b5cf75cf76cf77cf78cf79cf7acf7bcf7ccf7dcf7ed0b7cf80cf81cf82cf83f3b8cf84cf85cf86cf87d9f9cf88cf89cf8acf8bcf8ccf8df3b9cf8ecf8fcf90cf91cf92cf93cf94cf95f3b7cf96c8e4f3b6cf97cf98cf99cf9af3bacf9bcf9ccf9dcf9ecf9ff3bbb4c0cfa0,
 .run 0xd040 14,
 .lit 128 0xeec3d04ed04fd050d051d052d053f3bcd054d055f3bdd056d057d058d1aad059d05ad05bf4acd0c6d05cd05dd05ed05fd060d061d0d0d1dcd062d063d064d065d066d067cfced068d069bdd6d06ad1c3d06bd06cd06dd06ed06fd070d071bae2e1e9d2c2f1c2b2b9d072d073b1edf1c3d074c9c0b3c4d075d9f2d076cba5d077f1c4d078d079d07ad07bd6d4d07cd07dd07ed080d081f1c5f4c0f1c6d082d4acf1c7d083b0c0f4c1d084d085f4c2d086d087b4fcd088c5dbd089d08ad08bd08cccbbd08dd08ed08fd0e4d090d091d092d093d094cde0d095d096d097d098d099f1c8d09ad9f3d09bd09cd09dd09ed09fd0a0b1bbd140cfaed141d142d143b8a4,
 .lit 128 0xd144d145d146d147d148f1cad149d14ad14bd14cf1cbd14dd14ed14fd150b2c3c1d1d151d152d7b0f1c9d153d154f1ccd155d156d157d158f1ced159d15ad15bd9f6d15cd2e1d4a3d15dd15ef4c3c8b9d15fd160d161d162d163f4c4d164d165f1cdf1cfbfe3f1d0d166d167f1d4d168d169d16ad16bd16cd16dd16ef1d6f1d1d16fc9d1c5e1d170d171d172c2e3b9fcd173d174f1d3d175f1d5d176d177d178b9d3d179d17ad17bd17cd17dd17ed180f1dbd181d182d183d184d185bad6d186b0fdf1d9d187d188d189d18ad18bf1d8f1d2f1dad18cd18dd18ed18fd190f1d7d191d192d193c8ecd194d195d196d197cdcaf1ddd198d199d19ad19be5bdd19c,
 .lit 19 0xd19dd19ef1dcd19ff1ded1a0d240d241d242d243d244d245d246d247d248f1dfd249d24acfe5,
 .run 0xd24b 25,
 .lit 9 0xf4c5bdf3d264d265d266d267d268d269f1e0,
 .run 0xd26a 20,
 .lit 12 0xf1e1d27ed280d281cef7d282d2aad283f1fbd284d285b8b2,
 .run 0xd286 27,
 .run 0xd340 31,
 .lit 71 0xbcfbb9dbd35fb9e6c3d9cad3eae8c0c0bef5eae9eaeaeaebd360eaeceaedeaeeeaefbdc7d361d362d363f5fbd364d365d366f5fdd367f5fed368f5fcd369d36ad36bd36cbde2d36df6a1b4a5d36ed36fd370d371f6a2d372d373d374f6a3d375d376d377ecb2d378d379d37ad37bd37cd37dd37ed380d381d382d383d384d1d4d385d386d387d388d389d38ad9ea,
 .run 0xd38b 22,
 .run 0xd440 32,
 .lit 11 0xf6a4d460d461d462d463d464d465d466d467d468eeba,
 .run 0xd469 22,
 .run 0xd480 26,
 .lit 27 0xd5b2d49ad49bd49cd49dd49ed49fd4a0d540d541d542d543d544d545d546d547d3feccdcd548d549d54ad54bd54cd54dd54ed54fcac4,
 .run 0xd550 47,
 .run 0xd580 33,
 .run 0xd640 35,
 .lit 1 0xe5c0,
 .run 0xd663 28,
 .lit 3 0xd680d681f6a5,
 .run 0xd682 31,
 .run 0xd740 32,
 .lit 7 0xbeafd760d761d762d763d764c6a9,
 .run 0xd765 26,
 .run 0xd780 25,
 .lit 128 0xdaa5bcc6b6a9b8bcc8cfbca5daa6daa7ccd6c8c3daa8c6fdd799d1b5d2e9d1b6bcc7d79abdb2bbe4daa9daaad1c8daabd0edb6efc2dbd79bcbcfb7edc9e8b7c3bef7d6a4daacdaadc6c0d7e7cab6d79cd5a9cbdfd5efdaaed6dfb4cadab0daafd79dd2ebdab1dab2dab3cad4dab4caabdab5dab6b3cfd6efdab7bbb0b5aedab8dab9b9eed1afd2e8dabab8c3cfeab2efdabbdabcd79ebdebcedcd3efdabdcef3dabed3d5bbe5dabfcbb5cbd0dac0c7ebd6eedac1c5b5b6c1dac2b7ccbfcedac3dac4cbaddac5b5f7dac6c1c2d7bbdac7ccb8d79fd2eac4b1dac8b5fdbbd1dac9d0b3dacadacbcebddaccdacddaceb2f7dad1dacfd1e8dad0c3d5dad2d7a0dad3,
 .lit 121 0xdad4dad5d0bbd2a5b0f9dad6c7abdad7bdf7c3a1dad8dad9c3fdccb7dadadadbc0bec6d7dadcdaddc7b4dadedadfb9c8d840d841d842d843d844d845d846d847d848bbedd849d84ad84bd84cb6b9f4f8d84df4f9d84ed84fcde3d850d851d852d853d854d855d856d857f5b9d858d859d85ad85bebe0d85cd85dd85ed85fd860d861cff3bbbfd862d863d864d865d866d867d868bac0d4a5d869d86ad86bd86cd86dd86ed86fe1d9d870d871d872d873f5f4b1aab2f2d874d875d876d877d878d879d87af5f5d87bd87cf5f7d87dd87ed880bad1f5f6d881c3b2d882d883d884d885d886d887d888f5f9d889d88ad88bf5f8,
 .run 0xd88c 21,
 .run 0xd940 63,
 .run 0xd980 33,
 .run 0xda40 15,
 .lit 128 0xb1b4d5eab8bada4fb9b1b2c6d4f0cfcdb0dcd5cbbbf5d6cab7b7ccb0c6b6b1e1b9bad6fcb9e1b7a1bcfaeadaeadbccf9b9f3eadcb4fbc3b3b7d1bad8eaddd4f4eadebcd6bbdfeadfc1dec2b8d4dfd7caeae0eae1eae4eae2eae3c9deb8b3b6c4eae5caeac9cdb4cdda50da51e2d9c5e2eae6c0b5da52d7b8eae7d7acc8fcd8d3d8cdd4deda53d4f9c9c4d3aeb8d3b3e0da54c9e2f4f6da55da56da57bad5da58f4f7da59da5ad7dfda5bda5cf4f1b8b0d5d4b8cfc6f0da5dda5eda5fda60da61da62da63da64da65b3c3da66da67f4f2b3acda68da69da6ada6bd4bdc7f7da6cda6dda6eda6fda70f4f4da71da72f4f3da73da74da75da76da77da78da79da7a,
 .lit 7 0xda7bda7ccccbda7dda7eda80c8a4,
 .run 0xda81 13,
 .lit 128 0xf4f5da8ed7e3c5bff5c0da8fda90f5bbda91f5c3da92f5c2da93d6baf5c1da94da95da96d4bef5c4da97f5ccda98da99da9ada9bb0cfb5f8da9cf5c9f5cada9dc5dcda9eda9fdaa0db40f5c5f5c6db41db42f5c7f5cbdb43bee0f5c8b8fadb44db45db46f5d0f5d3db47db48db49bfe7db4ab9f2f5bcf5cddb4bdb4cc2b7db4ddb4edb4fccf8db50bcf9db51f5cef5cff5d1b6e5f5d2db52f5d5db53db54db55db56db57db58db59f5bddb5adb5bdb5cf5d4d3bbdb5db3ecdb5edb5fcca4db60db61db62db63f5d6db64db65db66db67db68db69db6adb6bf5d7bee1f5d8db6cdb6dccdff5dbdb6edb6fdb70db71db72b2c8d7d9db73f5d9db74f5daf5dcdb75,
 .lit 41 0xf5e2db76db77db78f5e0db79db7adb7bf5dff5dddb7cdb7df5e1db7edb80f5def5e4f5e5db81cce3db82db83e5bfb5b8f5e3f5e8cca3db84db85db86db87db88f5e6f5e7db89db8adb8bdb8cdb8ddb8ef5be,
 .run 0xdb8f 12,
 .lit 57 0xb1c4db9bdb9cf5bfdb9ddb9eb5c5b2e4db9ff5ecf5e9dba0b6d7dc40f5eddc41f5eadc42dc43dc44dc45dc46f5ebdc47dc48b4dadc49d4eadc4adc4bdc4cf5eedc4db3f9dc4edc4fdc50dc51dc52dc53dc54f5eff5f1dc55dc56dc57f5f0dc58dc59dc5adc5bdc5cdc5ddc5ef5f2dc5ff5f3,
 .run 0xdc60 12,
 .lit 36 0xc9edb9aadc6cdc6dc7fbdc6edc6fb6e3dc70dc71dc72dc73dc74dc75dc76ccc9dc77dc78dc79dc7adc7bdc7cdc7ddc7edc80dc81dc82dc83dc84dc85dc86dc87dc88dc89dc8aeaa6,
 .run 0xdc8b 22,
 .run 0xdd40 63,
 .run 0xdd80 33,
 .run 0xde40 33,
 .lit 128 0xb3b5d4feb9ecd0f9de61e9edd7aae9eec2d6c8edbae4e9efe9f0e9f1d6e1e9f2e9f3e9f5e9f4e9f6e9f7c7e1e9f8d4d8e9f9bdcede62e9fae9fbbdcfe9fcb8a8c1bee9fdb1b2bbd4b9f5e9fede63eaa1eaa2eaa3b7f8bcadde64cae4e0ced4afcfbdd5b7eaa4d5deeaa5d0c1b9bcde65b4c7b1d9de66de67de68c0b1de69de6ade6bde6cb1e6b1e7de6db1e8de6ede6fde70de71b3bdc8e8de72de73de74de75e5c1de76de77b1dfde78de79de7ac1c9b4efde7bde7cc7a8d3d8de7dc6f9d1b8de7eb9fdc2f5de80de81de82de83de84d3adde85d4cbbdfcde86e5c2b7b5e5c3de87de88bbb9d5e2de89bdf8d4b6cea5c1acb3d9de8ade8bccf6de8ce5c6e5c4,
 .lit 128 0xe5c8de8de5cae5c7b5cfc6c8de8eb5fce5c5de8fcaf6de90de91e5c9de92de93de94c3d4b1c5bca3de95de96de97d7b7de98de99cdcbcbcdcacaccd3e5cce5cbc4e6de9ade9bd1a1d1b7e5cdde9ce5d0de9dcdb8d6f0e5cfb5ddde9ecdbede9fe5d1b6badea0df40cda8b9e4df41cac5b3d1cbd9d4ece5d2b7eadf42df43df44e5cedf45df46df47df48df49df4ae5d5b4fee5d6df4bdf4cdf4ddf4edf4fe5d3e5d4df50d2dddf51df52c2dfb1c6df53d3e2df54df55b6ddcbecdf56e5d7df57df58d3f6df59df5adf5bdf5cdf5db1e9df5eb6f4e5dae5d8e5d9b5c0df5fdf60df61d2c5e5dcdf62df63e5dedf64df65df66df67df68df69e5ddc7b2df6ad2a3,
 .lit 128 0xdf6bdf6ce5dbdf6ddf6edf6fdf70d4e2d5dadf71df72df73df74df75e5e0d7f1df76df77df78df79df7adf7bdf7ce5e1df7db1dcd1fbdf7ee5e2e5e4df80df81df82df83e5e3df84df85e5e5df86df87df88df89df8ad2d8df8bb5cbdf8ce7dfdf8ddaf5df8edaf8df8fdaf6df90daf7df91df92df93dafad0cfc4c7df94df95b0eedf96df97df98d0b0df99daf9df9ad3cabaaadba2c7f1df9bdafcdafbc9dbdafddf9cdba1d7dedafec1dadf9ddf9edba5df9fdfa0d3f4e040e041dba7dba4e042dba8e043e044bdbce045e046e047c0c9dba3dba6d6a3e048dba9e049e04ae04bdbade04ce04de04edbaedbacbac2e04fe050e051bfa4dbabe052e053e054,
 .lit 31 0xdbaad4c7b2bfe055e056dbafe057b9f9e058dbb0e059e05ae05be05cb3bbe05de05ee05fb5a6e060e061e062e063b6bcdbb1e064e065e066b6f5e067dbb2,
 .run 0xe068 20,
 .lit 128 0xb1c9e07ce07de07ee080dbb4e081e082e083dbb3dbb5e084e085e086e087e088e089e08ae08be08ce08de08edbb7e08fdbb6e090e091e092e093e094e095e096dbb8e097e098e099e09ae09be09ce09de09ee09fdbb9e0a0e140dbbae141e142d3cff4fac7f5d7c3c5e4f4fcf4fdf4fbe143bec6e144e145e146e147d0efe148e149b7d3e14ae14bd4cdccaae14ce14df5a2f5a1baa8f4fecbd6e14ee14fe150f5a4c0d2e151b3eae152cdaaf5a5f5a3bdb4f5a8e153f5a9bdcdc3b8bfe1cbe1f5aae154e155e156f5a6f5a7c4f0e157e158e159e15ae15bf5ace15cb4bce15dd7ede15eb4d7f5abf5aee15fe160f5adf5afd0d1e161e162e163e164e165e166,
 .lit 77 0xe167c3d1c8a9e168e169e16ae16be16ce16df5b0f5b1e16ee16fe170e171e172e173f5b2e174e175f5b3f5b4f5b5e176e177e178e179f5b7f5b6e17ae17be17ce17df5b8e17ee180e181e182e183e184e185e186e187e188e189e18ab2c9e18bd3d4cacde18cc0efd6d8d2b0c1bfe18dbdf0e18ee18fe190e191e192e193e194e195e196e197b8aae198e199e19ae19be19ce19de19ee19fe1a0,
 .run 0xe240 63,
 .run 0xe280 33,
 .run 0xe340 46,
 .lit 1 0xbcf8,
 .run 0xe36e 17,
 .lit 9 0xe380e381e382e383e384e385e386e387f6c6,
 .run 0xe388 25,
 .lit 7 0xe440e441e442e443e444e445f6c7,
 .run 0xe446 25,
 .lit 1 0xf6c8,
 .run 0xe45f 32,
 .run 0xe480 33,
 .run 0xe540 52,
 .lit 12 0xf6c9e574e575e576e577e578e579e57ae57be57ce57de57e,
 .run 0xe580 32,
 .lit 2 0xf6cae5a0,
 .run 0xe640 35,
 .lit 1 0xf6cc,
 .run 0xe663 28,
 .run 0xe680 30,
 .lit 13 0xf6cbe69ee69fe6a0e740e741e742e743e744e745e746e747f7e9,
 .run 0xe748 55,
 .run 0xe780 33,
 .run 0xe840 15,
 .lit 1 0xf6cd,
 .run 0xe84f 44,
 .lit 5 0xf6cee87be87ce87de87e,
 .run 0xe880 21,
 .lit 128 0xeec4eec5eec6d5ebb6a4eec8eec7eec9eecac7a5eecbeecce895b7b0b5f6eecdeecfe896eecee897b8c6eed0eed1eed2b6dbb3aed6d3c4c6b1b5b8d6eed3eed4d4bfc7d5befbced9b9b3eed6eed5eed8eed7c5a5eed9eedac7aeeedbc7afeedcb2a7eeddeedeeedfeee0eee1d7eaeee2eee3bcd8eee4d3cbccfab2acc1e5eee5c7a6c3ade898eee6eee7eee8eee9eeeaeeebeeece899eeedeeeeeeefe89ae89beef0eef1eef2eef4eef3e89ceef5cdadc2c1eef6eef7eef8d5a1eef9cfb3eefaeefbe89deefceefdefa1eefeefa2b8f5c3faefa3efa4bdc2d2bfb2f9efa5efa6efa7d2f8efa8d6fdefa9c6cce89eefaaefabc1b4efaccffacbf8efaeefadb3fa,
 .lit 123 0xb9f8efafefb0d0e2efb1efb2b7e6d0bfefb3efb4efb5c8f1cce0efb6efb7efb8efb9efbad5e0efbbb4edc3aaefbce89fefbdefbeefbfe8a0cefdefc0c2e0b4b8d7b6bdf5e940cfc7efc3efc1efc2efc4b6a7bcfcbee2c3ccefc5efc6e941efc7efcfefc8efc9efcac7c2eff1b6cdefcbe942efccefcdb6c6c3beefcee943efd0efd1efd2d5f2e944efd3c4f7e945efd4c4f8efd5efd6b8e4b0f7efd7efd8efd9e946efdaefdbefdcefdde947efdebeb5efe1efdfefe0e948efe2efe3c1cdefe4efe5efe6efe7efe8efe9efeaefebefecc0d8e949efedc1adefeeefefeff0e94ae94bcfe2e94ce94de94ee94fe950e951e952e953b3a4,
 .run 0xe954 43,
 .run 0xe980 33,
 .run 0xea40 28,
 .lit 128 0xc3c5e3c5c9c1e3c6ea5cb1d5cecab4b3c8f2e3c7cfd0e3c8bce4e3c9e3cac3c6d5a2c4d6b9ebcec5e3cbc3f6e3ccea5db7a7b8f3bad2e3cde3ced4c4e3cfea5ee3d0d1cbe3d1e3d2e3d3e3d4d1d6e3d5b2fbc0bbe3d6ea5fc0abe3d7e3d8e3d9ea60e3dae3dbea61b8b7dae2ea62b6d3ea63dae4dae3ea64ea65ea66ea67ea68ea69ea6adae6ea6bea6cea6dc8eeea6eea6fdae5b7c0d1f4d2f5d5f3bdd7ea70ea71ea72ea73d7e8dae8dae7ea74b0a2cdd3ea75dae9ea76b8bdbccac2bdc2a4b3c2daeaea77c2aac4b0bdb5ea78ea79cfdeea7aea7bea7cdaebc9c2ea7dea7eea80ea81ea82b1ddea83ea84ea85daecea86b6b8d4baea87b3fdea88ea89daed,
 .lit 16 0xd4c9cfd5c5e3ea8adaeeea8bea8cea8dea8eea8fdaefea90daf0c1eaccd5cfdd,
 .run 0xea91 13,
 .lit 128 0xd3e7c2a1ea9edaf1ea9feaa0cbe5eb40daf2eb41cbe6d2feeb42eb43eb44b8f4eb45eb46daf3b0afcfb6eb47eb48d5cfeb49eb4aeb4beb4ceb4deb4eeb4feb50eb51eb52cbedeb53eb54eb55eb56eb57eb58eb59eb5adaf4eb5beb5ce3c4eb5deb5ec1a5eb5feb60f6bfeb61eb62f6c0f6c1c4d1eb63c8b8d1e3eb64eb65d0dbd1c5bcafb9cdeb66eff4eb67eb68b4c6d3baf6c2b3fbeb69eb6af6c3eb6beb6cb5f1eb6deb6eeb6feb70eb71eb72eb73eb74eb75eb76f6c5eb77eb78eb79eb7aeb7beb7ceb7dd3eaf6a7d1a9eb7eeb80eb81eb82f6a9eb83eb84eb85f6a8eb86eb87c1e3c0d7eb88b1a2eb89eb8aeb8beb8cceedeb8dd0e8f6abeb8eeb8fcff6,
 .lit 58 0xeb90f6aad5f0f6acc3b9eb91eb92eb93bbf4f6aef6adeb94eb95eb96c4deeb97eb98c1d8eb99eb9aeb9beb9ceb9dcbaaeb9ecfbceb9feba0ec40ec41ec42ec43ec44ec45ec46ec47ec48f6afec49ec4af6b0ec4bec4cf6b1ec4dc2b6ec4eec4fec50ec51ec52b0d4c5f9ec53ec54ec55ec56f6b2,
 .run 0xec57 19,
 .lit 99 0xc7e0f6a6ec6aec6bbeb8ec6cec6dbeb2ec6eb5e5ec6fec70b7c7ec71bfbfc3d2c3e6ec72ec73d8ccec74ec75ec76b8efec77ec78ec79ec7aec7bec7cec7dec7eec80bdf9d1a5ec81b0d0ec82ec83ec84ec85ec86f7b0ec87ec88ec89ec8aec8bec8cec8dec8ef7b1ec8fec90ec91ec92ec93d0acec94b0b0ec95ec96ec97f7b2f7b3ec98f7b4ec99ec9aec9bc7caec9cec9dec9eec9feca0ed40ed41becfed42ed43f7b7ed44ed45ed46ed47ed48ed49ed4af7b6ed4bb1deed4cf7b5ed4ded4ef7b8ed4ff7b9,
 .run 0xed50 47,
 .lit 19 0xed80ed81cea4c8cded82baabe8b8e8b9e8babec2ed83ed84ed85ed86ed87d2f4ed88d4cfc9d8,
 .run 0xed89 24,
 .run 0xee40 63,
 .run 0xee80 33,
 .lit 57 0xef40ef41ef42ef43ef44ef45d2b3b6a5c7eaf1fccfeecbb3d0ebe7efcde7b9cbb6d9f1fdb0e4cbccf1fed4a4c2adc1ecc6c4beb1f2a1bcd5ef46f2a2f2a3ef47f2a4d2c3c6b5ef48cdc7f2a5ef49d3b1bfc5cce2ef4af2a6f2a7d1d5b6eef2a8f2a9b5dff2aaf2abef4bb2fcf2acf2adc8a7,
 .run 0xef4c 38,
 .lit 27 0xb7e7ef72ef73eca9ecaaecabef74ecacef75ef76c6aeecadecaeef77ef78ef79b7c9cab3ef7aef7bef7cef7def7eef80ef81e2b8f7cf,
 .run 0xef82 31,
 .lit 9 0xf040f041f042f043f044f7d0f045f046b2cd,
 .run 0xf047 29,
 .lit 1 0xf7d1,
 .run 0xf064 27,
 .lit 12 0xf080f081f082f083f084f085f086f087f088f089f7d3f7d2,
 .run 0xf08a 13,
 .lit 70 0xe2bbf097bca2f098e2bce2bde2bee2bfe2c0e2c1b7b9d2fbbda4caceb1a5cbc7f099e2c2b6fcc8c4e2c3f09af09bbdc8f09cb1fde2c4f09db6f6e2c5c4d9f09ef09fe2c6cfdab9dde2c7c0a1f0a0e2c8b2f6f140e2c9f141c1f3e2cae2cbc2f8e2cce2cde2cecad7d8b8d9e5cfe3f142f143f144f145f146f147f148f149f14af14bf14cf0a5f14df14edcb0,
 .run 0xf14f 48,
 .run 0xf180 33,
 .run 0xf240 63,
 .run 0xf280 33,
 .run 0xf340 18,
 .lit 128 0xc2edd4a6cdd4d1b1b3dbc7fdf352b2b5c2bfe6e0cabbe6e1e6e2bed4e6e3d7a4cdd5e6e5bcdde6e4e6e6e6e7c2eef353bdbee6e8c2e6baa7e6e9f354e6eab3d2d1e9f355f356bfa5e6ebc6efe6ece6edf357f358e6eec6ade6eff359c9a7e6f0e6f1e6f2e5b9e6f3e6f4c2e2e6f5e6f6d6e8e6f7f35ae6f8b9c7f35bf35cf35df35ef35ff360f361f7bbf7baf362f363f364f365f7bef7bcbaa1f366f7bff367f7c0f368f369f36af7c2f7c1f7c4f36bf36cf7c3f36df36ef36ff370f371f7c5f7c6f372f373f374f375f7c7f376cbe8f377f378f379f37ab8dff37bf37cf37df37ef380f381f7d4f382f7d5f383f384f385f386f7d6f387f388f389f38af7d8,
 .lit 111 0xf38bf7daf38cf7d7f38df38ef38ff390f391f392f393f394f395f7dbf396f7d9f397f398f399f39af39bf39cf39dd7d7f39ef39ff3a0f440f7dcf441f442f443f444f445f446f7ddf447f448f449f7def44af44bf44cf44df44ef44ff450f451f452f453f454f7dff455f456f457f7e0f458f459f45af45bf45cf45df45ef45ff460f461f462dbcbf463f464d8aaf465f466f467f468f469f46af46bf46ce5f7b9edf46df46ef46ff470bffdbbeaf7c9c6c7f7c8f471f7caf7ccf7cbf472f473f474f7cdf475cebaf476f7cef477f478c4a7f479f47af47bf47cf47df47e,
 .run 0xf480 33,
 .run 0xf540 63,
 .run 0xf580 33,
 .run 0xf640 63,
 .run 0xf680 33,
 .run 0xf740 63,
 .lit 104 0xf780d3e3f781f782f6cff783c2b3f6d0f784f785f6d1f6d2f6d3f6d4f786f787f6d6f788b1abf6d7f789f6d8f6d9f6daf78af6dbf6dcf78bf78cf78df78ef6ddf6decfcaf78ff6dff6e0f6e1f6e2f6e3f6e4c0f0f6e5f6e6f6e7f6e8f6e9f790f6eaf791f6ebf6ecf792f6edf6eef6eff6f0f6f1f6f2f6f3f6f4bea8f793f6f5f6f6f6f7f6f8f794f795f796f797f798c8faf6f9f6faf6fbf6fcf799f79af6fdf6fef7a1f7a2f7a3f7a4f7a5f79bf79cf7a6f7a7f7a8b1eef7a9f7aaf7abf79df79ef7acf7adc1dbf7aef79ff7a0f7af,
 .run 0xf840 63,
 .run 0xf880 33,
 .run 0xf940 63,
 .run 0xf980 33,
 .run 0xfa40 63,
 .run 0xfa80 33,
 .run 0xfb40 28,
 .lit 128 0xc4f1f0afbca6f0b0c3f9fb5cc5b8d1bbfb5df0b1f0b2f0b3f0b4f0b5d1bcfb5ed1ecfb5ff0b7f0b6d4a7fb60cdd2f0b8f0baf0b9f0bbf0bcfb61fb62b8ebf0bdbae8fb63f0bef0bfbee9f0c0b6ecf0c1f0c2f0c3f0c4c8b5f0c5f0c6fb64f0c7c5f4fb65f0c8fb66fb67fb68f0c9fb69f0caf7bdfb6af0cbf0ccf0cdfb6bf0cefb6cfb6dfb6efb6ff0cfbad7fb70f0d0f0d1f0d2f0d3f0d4f0d5f0d6f0d8fb71fb72d3a5f0d7fb73f0d9fb74fb75fb76fb77fb78fb79fb7afb7bfb7cfb7df5bac2b9fb7efb80f7e4fb81fb82fb83fb84f7e5f7e6fb85fb86f7e7fb87fb88fb89fb8afb8bfb8cf7e8c2b4fb8dfb8efb8ffb90fb91fb92fb93fb94fb95f7eafb96,
 .lit 128 0xf7ebfb97fb98fb99fb9afb9bfb9cc2f3fb9dfb9efb9ffba0fc40fc41fc42fc43fc44fc45fc46fc47fc48f4f0fc49fc4afc4bf4effc4cfc4dc2e9fc4ef7e1f7e2fc4ffc50fc51fc52fc53bbc6fc54fc55fc56fc57d9e4fc58fc59fc5acaf2c0e8f0a4fc5bbadafc5cfc5dc7adfc5efc5ffc60c4acfc61fc62f7ecf7edf7eefc63f7f0f7effc64f7f1fc65fc66f7f4fc67f7f3fc68f7f2f7f5fc69fc6afc6bfc6cf7f6fc6dfc6efc6ffc70fc71fc72fc73fc74fc75ede9fc76edeaedebfc77f6bcfc78fc79fc7afc7bfc7cfc7dfc7efc80fc81fc82fc83fc84f6bdfc85f6beb6a6fc86d8befc87fc88b9c4fc89fc8afc8bd8bbfc8cdcb1fc8dfc8efc8ffc90fc91,
 .lit 51 0xfc92caf3fc93f7f7fc94fc95fc96fc97fc98fc99fc9afc9bfc9cf7f8fc9dfc9ef7f9fc9ffca0fd40fd41fd42fd43fd44f7fbfd45f7fafd46b1c7fd47f7fcf7fdfd48fd49fd4afd4bfd4cf7fefd4dfd4efd4ffd50fd51fd52fd53fd54fd55fd56fd57c6ebecb4,
 .run 0xfd58 39,
 .lit 20 0xfd80fd81fd82fd83fd84fd85b3ddf6b3fd86fd87f6b4c1e4f6b5f6b6f6b7f6b8f6b9f6bac8a3f6bb,
 .run 0xfd88 12,
 .lit 13 0xc1fab9a8ede8fd94fd95fd96b9ead9dffd97fd98fd99fd9afd9b]

set_option maxRecDepth 8000 in
/-- The entries of `mb_gb2uni_table`. -/
def gb2uniPieces : List Piece := [
 .lit 128 0x4e024e044e054e064e0f4e124e174e1f4e204e214e234e264e294e2e4e2f4e314e334e354e374e3c4e404e414e424e444e464e4a4e514e554e574e5a4e5b4e624e634e644e654e674e684e6a4e6b4e6c4e6d4e6e4e6f4e724e744e754e764e774e784e794e7a4e7b4e7c4e7d4e7f4e804e814e824e834e844e854e874e8a003f4e904e964e974e994e9c4e9d4e9e4ea34eaa4eaf4eb04eb14eb44eb64eb74eb84eb94ebc4ebd4ebe4ec84ecc4ecf4ed04ed24eda4edb4edc4ee04ee24ee64ee74ee94eed4eee4eef4ef14ef44ef84ef94efa4efc4efe4f004f024f034f044f054f064f074f084f0b4f0c4f124f134f144f154f164f1c4f1d4f214f234f284f29,
 .lit 114 0x4f2c4f2d4f2e4f314f334f354f374f394f3b4f3e4f3f4f404f414f424f444f454f474f484f494f4a4f4b4f4c4f524f544f564f614f624f664f684f6a4f6b4f6d4f6e4f714f724f754f774f784f794f7a4f7d4f804f814f824f854f864f874f8a4f8c4f8e4f904f924f934f954f964f984f994f9a4f9c4f9e4f9f4fa14fa24fa44fab4fad4fb04fb14fb24fb34fb44fb64fb74fb84fb94fba4fbb4fbc4fbd4fbe4fc04fc14fc24fc64fc74fc84fc94fcb4fcc4fcd4fd24fd34fd44fd54fd64fd94fdb4fe04fe24fe44fe54fe74feb4fec4ff04ff24ff44ff54ff64ff74ff94ffb4ffc4ffd,
 .run 0x4fff 12,
 .lit 90 0x003f500b500e501050115013501550165017501b501d501e50205022502350245027502b502f5030503150325033503450355036503750385039503b503d503f5040504150425044504550465049504a504b504d505050515052505350545056505750585059505b505d505e505f506050615062506350645066506750685069506a506b506d506e506f50705071507250735074507550785079507a507c507d5081508250835084508650875089508a508b508c,
 .run 0x508e 21,
 .lit 16 0x50a450a650aa50ab50ad50ae50af50b050b150b350b450b550b650b750b850b9,
 .run 0x50bc 19,
 .lit 54 0x50d050d150d250d350d450d550d750d850d950db50dc50dd50de50df50e050e150e250e350e450e550e850e950ea50eb50ef50f050f150f250f450f650f750f850f950fa50fc50fd50fe50ff5100510151025103510451055108003f5109510a510c510d510e510f51105111,
 .run 0x5113 14,
 .run 0x5122 29,
 .lit 128 0x51425147514a514c514e514f515051525153515751585159515b515d515e515f5160516151635164516651675169516a516f5172517a517e517f5183518451865187518a518b518e518f51905191519351945198519a519d519e519f51a151a351a651a751a851a951aa51ad51ae51b451b851b951ba51be51bf51c151c251c351c551c851ca51cd51ce51d051d251d351d451d551d651d751d851d951da51dc51de51df51e251e351e551e651e751e851e951ea51ec51ee51f151f251f451f751fe520452055209520b520c520f5210521352145215521c521e521f522152225223522552265227522a522c522f5231523252345235523c523e524452455246,
 .lit 128 0x524752485249524b524e524f52525253525552575258003f5259525a525b525d525f526052625263526452665268526b526c526d526e527052715273527452755276527752785279527a527b527c527e5280528352845285528652875289528a528b528c528d528e528f52915292529452955296529752985299529a529c52a452a552a652a752ae52af52b052b452b552b652b752b852b952ba52bb52bc52bd52c052c152c252c452c552c652c852ca52cc52cd52ce52cf52d152d352d452d552d752d952da52db52dc52dd52de52e052e152e252e352e552e652e752e852e952ea52eb52ec52ed52ee52ef52f152f252f352f452f552f652f752f852fb52fc,
 .lit 128 0x52fd530153025303530453075309530a530b530c530e53115312531353145318531b531c531e531f532253245325532753285329532b532c532d532f533053315332533353345335533653375338533c533d5340534253445346534b534c534d5350535453585359535b535d53655368536a536c536d537253765379537b537c537d537e53805381538353875388538a538e538f003f53905391539253935394539653975399539b539c539e53a053a153a453a753aa53ab53ac53ad53af53b053b153b253b353b453b553b753b853b953ba53bc53bd53be53c053c353c453c553c653c753ce53cf53d053d253d353d553da53dc53dd53de53e153e253e753f4,
 .lit 128 0x53fa53fe53ff5400540254055407540b541454185419541a541c542254245425542a5430543354365437543a543d543f544154425444544554475449544c544d544e544f5451545a545d545e545f546054615463546554675469546a546b546c546d546e546f547054745479547a547e547f548154835485548754885489548a548d5491549354975498549c549e549f54a054a154a254a554ae54b054b254b554b654b754b954ba54bc54be54c354c554ca54cb54d654d854db54e054e154e254e354e454eb54ec54ef54f054f154f454f554f654f754f854f954fb54fe550055025503550455055508550a550b550c550d550e551255135515551655175518,
 .lit 128 0x5519551a551c551d551e551f552155255526003f55285529552b552d553255345535553655385539553a553b553d55405542554555475548554b554c554d554e554f5551555255535554555755585559555a555b555d555e555f55605562556355685569556b556f557055715572557355745579557a557d557f55855586558c558d558e559055925593559555965597559a559b559e55a055a155a255a355a455a555a655a855a955aa55ab55ac55ad55ae55af55b055b255b455b655b855ba55bc55bf55c055c155c255c355c655c755c855ca55cb55ce55cf55d055d555d755d855d955da55db55de55e055e255e755e955ed55ee55f055f155f455f655f8,
 .lit 46 0x55f955fa55fb55fc55ff560256035604560556065607560a560b560d561056115612561356145615561656175619561a561c561d5620562156225625562656285629562a562b562e562f56305633563556375638563a563c563d563e,
 .run 0x5640 12,
 .lit 49 0x564f565056515652565356555656565a565b565d565e565f56605661003f5663566556665667566d566e566f56705672567356745675567756785679567a567d567e567f56805681568256835684568756885689568a568b568c568d569056915692,
 .run 0x5694 15,
 .lit 22 0x56a456a556a656a756a856a956aa56ab56ac56ad56ae56b056b156b256b356b456b556b656b856b956ba56bb,
 .run 0x56bd 13,
 .lit 36 0x56cb56cc56cd56ce56cf56d056d156d256d356d556d656d856d956dc56e356e556e656e756e856e956ea56ec56ee56ef56f256f356f656f756f856fb56fc57005701570257055707,
 .run 0x570b 17,
 .lit 128 0x571d571e5720572157225724572557265727572b5731573257345735573657375738573c573d573f5741574357445745574657485749574b57525753575457555756575857595762576357655767576c576e5770577157725774577557785779577a577d577e577f5780003f5781578757885789578a578d578e578f57905791579457955796579757985799579a579c579d579e579f57a557a857aa57ac57af57b057b157b357b557b657b757b957ba57bb57bc57bd57be57bf57c057c157c457c557c657c757c857c957ca57cc57cd57d057d157d357d657d757db57dc57de57e157e257e357e557e657e757e857e957ea57eb57ec57ee57f057f157f257f3,
 .lit 45 0x57f557f657f757fb57fc57fe57ff580158035804580558085809580a580c580e580f5810581258135814581658175818581a581b581c581d581f5822582358255826582758285829582b582c582d582e582f5831583258335834,
 .run 0x5836 14,
 .lit 31 0x58455846584758485849584a584b584e584f5850585258535855585658575859585a585b585c585d585f586058615862586358645866586758685869586a,
 .run 0x586d 17,
 .lit 31 0x587f58825884588658875888588a588b588c003f588d588e588f5890589158945895589658975898589b589c589d58a058a158a258a358a458a558a658a7,
 .run 0x58aa 18,
 .lit 21 0x58bd58be58bf58c058c258c358c458c658c758c858c958ca58cb58cc58cd58ce58cf58d058d258d358d4,
 .run 0x58d6 14,
 .lit 75 0x58e558e658e758e858e958ea58ed58ef58f158f258f458f558f758f858fa58fb58fc58fd58fe58ff5900590159035905590659085909590a590b590c590e591059115912591359175918591b591d591e592059215922592359265928592c59305932593359355936593b593d593e593f5940594359455946594a594c594d5950595259535959595b595c595d595e595f596159635964,
 .run 0x5966 13,
 .lit 72 0x59755977597a597b597c597e597f598059855989598b598c598e598f59905991599459955998599a599b599c599d599f59a059a159a259a6003f59a759ac59ad59b059b159b359b459b559b659b759b859ba59bc59bd59bf59c059c159c259c359c459c559c759c859c959cc59cd59ce59cf59d559d659d959db59de59df59e059e159e259e459e659e759e959ea59eb,
 .run 0x59ed 12,
 .lit 94 0x59fa59fc59fd59fe5a005a025a0a5a0b5a0d5a0e5a0f5a105a125a145a155a165a175a195a1a5a1b5a1d5a1e5a215a225a245a265a275a285a2a5a2b5a2c5a2d5a2e5a2f5a305a335a355a375a385a395a3a5a3b5a3d5a3e5a3f5a415a425a435a445a455a475a485a4b5a4c5a4d5a4e5a4f5a505a515a525a535a545a565a575a585a595a5b5a5c5a5d5a5e5a5f5a605a615a635a645a655a665a685a695a6b5a6c5a6d5a6e5a6f5a705a715a725a735a785a795a7b5a7c5a7d5a7e,
 .run 0x5a80 18,
 .lit 7 0x5a935a945a955a965a975a985a99,
 .run 0x5a9c 14,
 .lit 51 0x5aab5aac003f5aad5aae5aaf5ab05ab15ab45ab65ab75ab95aba5abb5abc5abd5abf5ac05ac35ac45ac55ac65ac75ac85aca5acb5acd5ace5acf5ad05ad15ad35ad55ad75ad95ada5adb5add5ade5adf5ae25ae45ae55ae75ae85aea5aec5aed5aee5aef5af0,
 .run 0x5af2 23,
 .run 0x5b0a 12,
 .run 0x5b18 26,
 .lit 11 0x5b335b355b365b385b395b3a5b3b5b3c5b3d5b3e5b3f,
 .run 0x5b41 15,
 .lit 128 0x5b525b565b5e5b605b615b675b685b6b5b6d5b6e5b6f5b725b745b765b775b785b795b7b5b7c5b7e5b7f5b825b865b8a5b8d5b8e5b905b915b925b945b965b9f5ba75ba85ba95bac5bad5bae5baf5bb15bb25bb75bba5bbb5bbc5bc05bc15bc35bc85bc95bca5bcb5bcd5bce5bcf003f5bd15bd45bd55bd65bd75bd85bd95bda5bdb5bdc5be05be25be35be65be75be95bea5beb5bec5bed5bef5bf15bf25bf35bf45bf55bf65bf75bfd5bfe5c005c025c035c055c075c085c0b5c0c5c0d5c0e5c105c125c135c175c195c1b5c1e5c1f5c205c215c235c265c285c295c2a5c2b5c2d5c2e5c2f5c305c325c335c355c365c375c435c445c465c475c4c5c4d5c52,
 .lit 128 0x5c535c545c565c575c585c5a5c5b5c5c5c5d5c5f5c625c645c675c685c695c6a5c6b5c6c5c6d5c705c725c735c745c755c765c775c785c7b5c7c5c7d5c7e5c805c835c845c855c865c875c895c8a5c8b5c8e5c8f5c925c935c955c9d5c9e5c9f5ca05ca15ca45ca55ca65ca75ca85caa5cae5caf5cb05cb25cb45cb65cb95cba5cbb5cbc5cbe5cc05cc25cc35cc55cc65cc75cc85cc95cca5ccc5ccd5cce5ccf5cd05cd15cd35cd45cd55cd65cd75cd85cda5cdb5cdc5cdd5cde5cdf5ce05ce25ce35ce75ce95ceb5cec5cee5cef5cf15cf25cf35cf45cf55cf65cf75cf85cf95cfa5cfc5cfd5cfe5cff5d00003f5d015d045d055d085d095d0a5d0b5d0c5d0d,
 .lit 77 0x5d0f5d105d115d125d135d155d175d185d195d1a5d1c5d1d5d1f5d205d215d225d235d255d285d2a5d2b5d2c5d2f5d305d315d325d335d355d365d375d385d395d3a5d3b5d3c5d3f5d405d415d425d435d445d455d465d485d495d4d5d4e5d4f5d505d515d525d535d545d555d565d575d595d5a5d5c5d5e5d5f5d605d615d625d635d645d655d665d675d685d6a5d6d5d6e5d705d715d725d73,
 .run 0x5d75 13,
 .run 0x5d83 22,
 .lit 3 0x5d9a5d9b5d9c,
 .run 0x5d9e 25,
 .run 0x5db8 13,
 .lit 7 0x5dc65dc75dc85dc95dca5dcb5dcc,
 .run 0x5dce 13,
 .lit 78 0x5ddc5ddf5de05de35de45dea5dec5ded003f5df05df55df65df85df95dfa5dfb5dfc5dff5e005e045e075e095e0a5e0b5e0d5e0e5e125e135e175e1e5e1f5e205e215e225e235e245e255e285e295e2a5e2b5e2c5e2f5e305e325e335e345e355e365e395e3a5e3e5e3f5e405e415e435e465e475e485e495e4a5e4b5e4d5e4e5e4f5e505e515e525e535e565e575e585e595e5a5e5c5e5d5e5f5e60,
 .run 0x5e63 15,
 .lit 58 0x5e755e775e795e7e5e815e825e835e855e885e895e8c5e8d5e8e5e925e985e9b5e9d5ea15ea25ea35ea45ea85ea95eaa5eab5eac5eae5eaf5eb05eb15eb25eb45eba5ebb5ebc5ebd5ebf5ec05ec15ec25ec35ec45ec55ec65ec75ec85ecb5ecc5ecd5ece5ecf5ed05ed45ed55ed75ed85ed95eda,
 .run 0x5edc 12,
 .lit 53 0x5ee95eeb5eec5eed5eee5eef5ef05ef15ef25ef35ef55ef85ef95efb5efc5efd5f055f065f075f095f0c5f0d5f0e5f105f125f145f165f195f1a5f1c5f1d5f1e5f215f225f235f24003f5f285f2b5f2c5f2e5f305f325f335f345f355f365f375f385f3b5f3d5f3e5f3f,
 .run 0x5f41 15,
 .lit 128 0x5f515f545f595f5a5f5b5f5c5f5e5f5f5f605f635f655f675f685f6b5f6e5f6f5f725f745f755f765f785f7a5f7d5f7e5f7f5f835f865f8d5f8e5f8f5f915f935f945f965f9a5f9b5f9d5f9e5f9f5fa05fa25fa35fa45fa55fa65fa75fa95fab5fac5faf5fb05fb15fb25fb35fb45fb65fb85fb95fba5fbb5fbe5fbf5fc05fc15fc25fc75fc85fca5fcb5fce5fd35fd45fd55fda5fdb5fdc5fde5fdf5fe25fe35fe55fe65fe85fe95fec5fef5ff05ff25ff35ff45ff65ff75ff95ffa5ffc600760086009600b600c60106011601360176018601a601e601f602260236024602c602d602e603060316032603360346036603760386039603a603d603e60406044,
 .lit 128 0x60456046604760486049604a604c604e604f605160536054605660576058605b605c605e605f6060606160656066606e60716072607460756077607e6080003f608160826085608660876088608a608b608e608f6090609160936095609760986099609c609e60a160a260a460a560a760a960aa60ae60b060b360b560b660b760b960ba60bd60be60bf60c060c160c260c360c460c760c860c960cc60cd60ce60cf60d060d260d360d460d660d760d960db60de60e160e260e360e460e560ea60f160f260f560f760f860fb60fc60fd60fe60ff61026103610461056107610a610b610c611061116112611361146116611761186119611b611c611d611e6121,
 .lit 5 0x6122612561286129612a,
 .run 0x612c 19,
 .lit 43 0x614061416142614361446145614661476149614b614d614f61506152615361546156615761586159615a615b615c615e615f6160616161636164616561666169616a616b616c616d616e616f61716172617361746176,
 .run 0x6178 19,
 .lit 58 0x618c618d618f61906191619261936195003f6196619761986199619a619b619c619e619f61a061a161a261a361a461a561a661aa61ab61ad61ae61af61b061b161b261b361b461b561b661b861b961ba61bb61bc61bd61bf61c061c161c361c461c561c661c761c961cc61cd61ce61cf61d061d3,
 .run 0x61d5 17,
 .run 0x61e7 14,
 .lit 128 0x61f661f761f861f961fa61fb61fc61fd61fe62006201620262036204620562076209621362146219621c621d621e622062236226622762286229622b622d622f6230623162326235623662386239623a623b623c6242624462456246624a624f62506255625662576259625a625c625d625e625f626062616262626462656268627162726274627562776278627a627b627d6281628262836285628662876288628b628c628d628e628f629062946299629c629d629e62a362a662a762a962aa62ad62ae62af62b062b262b362b462b662b762b862ba62be62c062c1003f62c362cb62cf62d162d562dd62de62e062e162e462ea62eb62f062f262f562f862f9,
 .lit 128 0x62fa62fb63006303630463056306630a630b630c630d630f63106312631363146315631763186319631c632663276329632c632d632e63306331633363346335633663376338633b633c633e633f63406341634463476348634a63516352635363546356635763586359635a635b635c635d63606364636563666368636a636b636c636f6370637263736374637563786379637c637d637e637f63816383638463856386638b638d639163936394639563976399639a639b639c639d639e639f63a163a463a663ab63af63b163b263b563b663b963bb63bd63bf63c063c163c263c363c563c763c863ca63cb63cc63d163d363d463d563d763d863d963da63db,
 .lit 128 0x63dc63dd63df63e263e463e563e663e763e863eb63ec63ee63ef63f063f163f363f563f763f963fa63fb63fc63fe640364046406640764086409640a640d640e6411641264156416641764186419641a641d641f642264236424003f6425642764286429642b642e642f643064316432643364356436643764386439643b643c643e6440644264436449644b644c644d644e644f6450645164536455645664576459645a645b645c645d645f64606461646264636464646564666468646a646b646c646e646f64706471647264736474647564766477647b647c647d647e647f648064816483648664886489648a648b648c648d648e648f6490649364946497,
 .lit 53 0x6498649a649b649c649d649f64a064a164a264a364a564a664a764a864aa64ab64af64b164b264b364b464b664b964bb64bd64be64bf64c164c364c464c664c764c864c964ca64cb64cc64cf64d164d364d464d564d664d964da64db64dc64dd64df64e064e164e364e5,
 .run 0x64e7 25,
 .lit 84 0x65016502650365046505650665076508650a650b650c650d650e650f65106511651365146515651665176519651a651b651c651d651e651f65206521003f6522652365246526652765286529652a652c652d65306531653265336537653a653c653d6540654165426543654465466547654a654b654d654e655065526553655465576558655a655c655f6560656165646565656765686569656a656d656e656f6571657365756576,
 .run 0x6578 15,
 .lit 128 0x65886589658a658d658e658f65926594659565966598659a659d659e65a065a265a365a665a865aa65ac65ae65b165b265b365b465b565b665b765b865ba65bb65be65bf65c065c265c765c865c965ca65cd65d065d165d365d465d565d865d965da65db65dc65dd65de65df65e165e365e465ea65eb65f265f365f465f565f865f965fb65fc65fd65fe65ff660166046605660766086609660b660d661066116612661666176618661a661b661c661e662166226623662466266629662a662b662c662e663066326633663766386639663a663b663d663f66406642664466456646664766486649664a664d664e665066516658003f6659665b665c665d665e,
 .lit 69 0x666066626663666566676669666a666b666c666d667166726673667566786679667b667c667d667f6680668166836685668666886689668a668b668d668e668f6690669266936694669566986699669a669b669c669e669f66a066a166a266a366a466a566a666a966aa66ab66ac66ad66af66b066b166b266b366b566b666b766b866ba66bb66bc66bd,
 .run 0x66bf 26,
 .lit 128 0x66da66de66df66e066e166e266e366e466e566e766e866ea66eb66ec66ed66ee66ef66f166f566f666f866fa66fb66fd6701670267036704670567066707670c670e670f671167126713671667186719671a671c671e67206721672267236724672567276729672e6730673267336736673767386739673b673c673e673f6741674467456747674a674b674d675267546755675767586759675a675b675d67626763676467666767676b676c676e677167746776003f67786779677a677b677d678067826783678567866788678a678c678d678e678f679167926793679467966799679b679f67a067a167a467a667a967ac67ae67b167b267b467b967ba67bb,
 .lit 128 0x67bc67bd67be67bf67c067c267c567c667c767c867c967ca67cb67cc67cd67ce67d567d667d767db67df67e167e367e467e667e767e867ea67eb67ed67ee67f267f567f667f767f867f967fa67fb67fc67fe68016802680368046806680d681068126814681568186819681a681b681c681e681f68206822682368246825682668276828682b682c682d682e682f68306831683468356836683a683b683f6847684b684d684f68526856685768586859685a685b685c685d685e685f686a686c686d686e686f6870687168726873687568786879687a687b687c687d687e687f688068826884688768886889688a688b688c688d688e68906891689268946895,
 .lit 91 0x689668986899689a689b689c689d689e689f68a068a168a368a468a568a968aa68ab68ac68ae68b168b268b468b668b768b8003f68b968ba68bb68bc68bd68be68bf68c168c368c468c568c668c768c868ca68cc68ce68cf68d068d168d368d468d668d768d968db68dc68dd68de68df68e168e268e468e568e668e768e868e968ea68eb68ec68ed68ef68f268f368f468f668f768f868fb68fd68fe68ff69006902690369046906690769086909690a690c690f6911,
 .run 0x6913 12,
 .lit 26 0x69216922692369256926692769286929692a692b692c692e692f6931693269336935693669376938693a693b693c693e69406941,
 .run 0x6943 17,
 .lit 97 0x6955695669586959695b695c695f6961696269646965696769686969696a696c696d696f697069726973697469756976697a697b697d697e697f698169836985698a698b698c698e698f6990699169926993699669976999699a699d699e699f69a069a169a269a369a469a569a669a969aa69ac69ae69af69b069b269b369b569b669b869b969ba69bc69bd003f69be69bf69c069c269c369c469c569c669c769c869c969cb69cd69cf69d169d269d369d569d669d769d869d969da69dc69dd69de,
 .run 0x69e1 12,
 .lit 25 0x69ee69ef69f069f169f369f469f569f669f769f869f969fa69fb69fc69fe6a006a016a026a036a046a056a066a076a086a09,
 .run 0x6a0b 12,
 .lit 119 0x6a196a1a6a1b6a1c6a1d6a1e6a206a226a236a246a256a266a276a296a2b6a2c6a2d6a2e6a306a326a336a346a366a376a386a396a3a6a3b6a3c6a3f6a406a416a426a436a456a466a486a496a4a6a4b6a4c6a4d6a4e6a4f6a516a526a536a546a556a566a576a5a6a5c6a5d6a5e6a5f6a606a626a636a646a666a676a686a696a6a6a6b6a6c6a6d6a6e6a6f6a706a726a736a746a756a766a776a786a7a6a7b6a7d6a7e6a7f6a816a826a836a856a866a876a886a896a8a6a8b6a8c6a8d6a8f6a926a936a946a956a966a986a996a9a6a9b6a9c6a9d6a9e6a9f6aa16aa26aa36aa46aa56aa6003f6aa76aa86aaa,
 .run 0x6aad 115,
 .lit 29 0x6b256b266b286b296b2a6b2b6b2c6b2d6b2e6b2f6b306b316b336b346b356b366b386b3b6b3c6b3d6b3f6b406b416b426b446b456b486b4a6b4b,
 .run 0x6b4d 12,
 .lit 10 0x6b5a6b5b6b5c6b5d6b5e6b5f6b606b616b686b69,
 .run 0x6b6b 14,
 .lit 128 0x6b7a6b7d6b7e6b7f6b806b856b88003f6b8c6b8e6b8f6b906b916b946b956b976b986b996b9c6b9d6b9e6b9f6ba06ba26ba36ba46ba56ba66ba76ba86ba96bab6bac6bad6bae6baf6bb06bb16bb26bb66bb86bb96bba6bbb6bbc6bbd6bbe6bc06bc36bc46bc66bc76bc86bc96bca6bcc6bce6bd06bd16bd86bda6bdc6bdd6bde6bdf6be06be26be36be46be56be66be76be86be96bec6bed6bee6bf06bf16bf26bf46bf66bf76bf86bfa6bfb6bfc6bfe6bff6c006c016c026c036c046c086c096c0a6c0b6c0c6c0e6c126c176c1c6c1d6c1e6c206c236c256c2b6c2c6c2d6c316c336c366c376c396c3a6c3b6c3c6c3e6c3f6c436c446c456c486c4b6c4c6c4d,
 .lit 128 0x6c4e6c4f6c516c526c536c566c586c596c5a6c626c636c656c666c676c6b6c6c6c6d6c6e6c6f6c716c736c756c776c786c7a6c7b6c7c6c7f6c806c846c876c8a6c8b6c8d6c8e6c916c926c956c966c976c986c9a6c9c6c9d6c9e6ca06ca26ca86cac6caf6cb06cb46cb56cb66cb76cba6cc06cc16cc26cc36cc66cc76cc86ccb6ccd6cce6ccf6cd16cd26cd8003f6cd96cda6cdc6cdd6cdf6ce46ce66ce76ce96cec6ced6cf26cf46cf96cff6d006d026d036d056d066d086d096d0a6d0d6d0f6d106d116d136d146d156d166d186d1c6d1d6d1f6d206d216d226d236d246d266d286d296d2c6d2d6d2f6d306d346d366d376d386d3a6d3f6d406d426d446d49,
 .lit 128 0x6d4c6d506d556d566d576d586d5b6d5d6d5f6d616d626d646d656d676d686d6b6d6c6d6d6d706d716d726d736d756d766d796d7a6d7b6d7d6d7e6d7f6d806d816d836d846d866d876d8a6d8b6d8d6d8f6d906d926d966d976d986d996d9a6d9c6da26da56dac6dad6db06db16db36db46db66db76db96dba6dbb6dbc6dbd6dbe6dc16dc26dc36dc86dc96dca6dcd6dce6dcf6dd06dd26dd36dd46dd56dd76dda6ddb6ddc6ddf6de26de36de56de76de86de96dea6ded6def6df06df26df46df56df66df86dfa6dfd6dfe6dff6e006e016e026e036e046e066e076e086e096e0b6e0f6e126e136e156e186e196e1b6e1c6e1e6e1f6e226e266e276e286e2a6e2c,
 .lit 49 0x6e2e6e306e316e336e35003f6e366e376e396e3b6e3c6e3d6e3e6e3f6e406e416e426e456e466e476e486e496e4a6e4b6e4c6e4f6e506e516e526e556e576e596e5a6e5c6e5d6e5e6e606e616e626e636e646e656e666e676e686e696e6a6e6c6e6d,
 .run 0x6e6f 15,
 .lit 128 0x6e806e816e826e846e876e886e8a6e8b6e8c6e8d6e8e6e916e926e936e946e956e966e976e996e9a6e9b6e9d6e9e6ea06ea16ea36ea46ea66ea86ea96eab6eac6ead6eae6eb06eb36eb56eb86eb96ebc6ebe6ebf6ec06ec36ec46ec56ec66ec86ec96eca6ecc6ecd6ece6ed06ed26ed66ed86ed96edb6edc6edd6ee36ee76eea6eeb6eec6eed6eee6eef6ef06ef16ef26ef36ef56ef66ef76ef86efa6efb6efc6efd6efe6eff6f006f016f036f046f056f076f086f0a6f0b6f0c6f0d6f0e6f106f116f126f166f176f186f196f1a6f1b6f1c6f1d6f1e6f1f6f216f226f236f256f266f276f286f2c6f2e6f306f326f346f356f376f386f396f3a6f3b6f3c6f3d,
 .lit 59 0x6f3f6f406f416f42003f6f436f446f456f486f496f4a6f4c6f4e6f4f6f506f516f526f536f546f556f566f576f596f5a6f5b6f5d6f5f6f606f616f636f646f656f676f686f696f6a6f6b6f6c6f6f6f706f716f736f756f766f776f796f7b6f7d6f7e6f7f6f806f816f826f836f856f866f876f8a6f8b,
 .run 0x6f8f 13,
 .lit 56 0x6f9d6f9e6f9f6fa06fa26fa36fa46fa56fa66fa86fa96faa6fab6fac6fad6fae6faf6fb06fb16fb26fb46fb56fb76fb86fba6fbb6fbc6fbd6fbe6fbf6fc16fc36fc46fc56fc66fc76fc86fca6fcb6fcc6fcd6fce6fcf6fd06fd36fd46fd56fd66fd76fd86fd96fda6fdb6fdc6fdd6fdf,
 .run 0x6fe2 12,
 .run 0x6ff0 33,
 .lit 36 0x70127013701470157016701770187019701c701d701e701f702070217022702470257026702770287029702a003f702b702c702d702e702f70307031703270337034703670377038,
 .run 0x703a 18,
 .lit 2 0x704d704e,
 .run 0x7050 14,
 .run 0x705f 12,
 .lit 28 0x706e707170727073707470777079707a707b707d7081708270837084708670877088708b708c708d708f70907091709370977098709a709b,
 .run 0x709e 13,
 .lit 13 0x70b070b270b470b570b670ba70be70bf70c470c570c670c770c9,
 .run 0x70cb 13,
 .lit 66 0x70da70dc70dd70de70e070e170e270e370e570ea70ee70f070f170f270f370f470f570f670f870fa70fb70fc70fe70ff710071017102710371047105710671077108710b710c710d710e710f7111711271147117711b711c711d711e711f712071217122712371247125712771287129712a712b712c712d712e713271337134003f7135,
 .run 0x7137 14,
 .lit 6 0x7146714771487149714b714d,
 .run 0x714f 13,
 .lit 124 0x715d715f716071617162716371657169716a716b716c716d716f7170717171747175717671777179717b717c717e717f718071817182718371857186718771887189718b718c718d718e7190719171927193719571967197719a719b719c719d719e71a171a271a371a471a571a671a771a971aa71ab71ad71ae71af71b071b171b271b471b671b771b871ba71bb71bc71bd71be71bf71c071c171c271c471c571c671c771c871c971ca71cb71cc71cd71cf71d071d171d271d371d671d771d871d971da71db71dc71dd71de71df71e171e271e371e471e671e871e971ea71eb71ec71ed71ef71f071f171f271f371f471f571f671f771f8,
 .run 0x71fa 12,
 .run 0x7207 20,
 .lit 76 0x003f721b721c721e721f722072217222722372247225722672277229722b722d722e722f723272337234723a723c723e72407241724272437244724572467249724a724b724e724f7250725172537254725572577258725a725c725e72607263726472657268726a726b726c726d7270727172737274727672777278727b727c727d7282728372857286728772887289728c728e72907291,
 .run 0x7293 12,
 .run 0x72a0 12,
 .lit 28 0x72ae72b172b272b372b572ba72bb72bc72bd72be72bf72c072c572c672c772c972ca72cb72cc72cf72d172d372d472d572d672d872da72db,
 .run 0xe4c6 63,
 .lit 1 0x003f,
 .run 0xe505 33,
 .lit 94 0x30003001300200b702c902c700a8300330052014ff5e2016202620182019201c201d3014301530083009300a300b300c300d300e300f301630173010301100b100d700f72236222722282211220f222a222922082237221a22a52225222023122299222b222e2261224c2248223d221d2260226e226f22642265221e223522342642264000b0203220332103ff0400a4ffe0ffe1203000a721162606260525cb25cf25ce25c725c625a125a025b325b2203b21922190219121933013,
 .run 0xe526 63,
 .lit 1 0x003f,
 .run 0xe565 33,
 .lit 16 0x2170217121722173217421752176217721782179e766e767e768e769e76ae76b,
 .run 0x2488 20,
 .run 0x2474 20,
 .lit 24 0x2460246124622463246424652466246724682469e76ce76d3220322132223223322432253226322732283229e76ee76f,
 .run 0x2160 12,
 .lit 2 0xe770e771,
 .run 0xe586 63,
 .lit 1 0x003f,
 .run 0xe5c5 33,
 .lit 4 0xff01ff02ff03ffe5,
 .run 0xff05 89,
 .lit 1 0xffe3,
 .run 0xe5e6 63,
 .lit 1 0x003f,
 .run 0xe625 33,
 .run 0x3041 83,
 .lit 11 0xe772e773e774e775e776e777e778e779e77ae77be77c,
 .run 0xe646 63,
 .lit 1 0x003f,
 .run 0xe685 33,
 .run 0x30a1 86,
 .lit 8 0xe77de77ee77fe780e781e782e783e784,
 .run 0xe6a6 63,
 .lit 1 0x003f,
 .run 0xe6e5 33,
 .run 0x391 17,
 .lit 15 0x03a303a403a503a603a703a803a9e785e786e787e788e789e78ae78be78c,
 .run 0x3b1 17,
 .lit 45 0x03c303c403c503c603c703c803c9e78de78ee78fe790e791e792e793fe35fe36fe39fe3afe3ffe40fe3dfe3efe41fe42fe43fe44e794e795fe3bfe3cfe37fe38fe31e796fe33fe34e797e798e799e79ae79be79ce79de79ee79f,
 .run 0xe706 63,
 .lit 1 0x003f,
 .run 0xe745 33,
 .lit 7 0x0410041104120413041404150401,
 .run 0x416 26,
 .run 0xe7a0 15,
 .lit 7 0x0430043104320433043404350451,
 .run 0x436 26,
 .run 0xe7af 13,
 .lit 20 0x02ca02cb02d920132015202520352105210921962197219821992215221f222322522266226722bf,
 .run 0x2550 36,
 .lit 77 0x2581258225832584258525862587003f25882589258a258b258c258d258e258f25932594259525bc25bd25e225e325e425e5260922953012301d301ee7bce7bde7bee7bfe7c0e7c1e7c2e7c3e7c4e7c5e7c6010100e101ce00e0011300e9011b00e8012b00ed01d000ec014d00f301d200f2016b00fa01d400f901d601d801da01dc00fc00ea0251e7c701440148e7c80261e7c9e7cae7cbe7cc,
 .run 0x3105 37,
 .run 0xe7cd 21,
 .lit 73 0x30213022302330243025302630273028302932a3338e338f339c339d339e33a133c433ce33d133d233d5fe30ffe2ffe4e7e221213231e7e32010e7e4e7e5e7e630fc309b309c30fd30fe3006309d309efe49fe4afe4bfe4cfe4dfe4efe4ffe50fe51fe52fe54fe55fe56fe57fe59fe5afe5bfe5cfe5dfe5efe5ffe60fe61003ffe62fe63fe64fe65fe66fe68fe69fe6afe6b,
 .run 0xe7e7 13,
 .lit 1 0x3007,
 .run 0xe7f4 13,
 .run 0x2500 76,
 .run 0xe801 15,
 .lit 97 0x72dc72dd72df72e272e372e472e572e672e772ea72eb72f572f672f972fd72fe72ff73007302730473057306730773087309730b730c730d730f731073117312731473187319731a731f732073237324732673277328732d732f73307332733373357336733a733b733c733d734073417342734373447345734673477348003f7349734a734b734c734e734f7351735373547355735673587359735a735b735c735d735e735f736173627363736473657366736773687369736a736b736e73707371,
 .run 0xe000 94,
 .run 0x7372 12,
 .lit 85 0x737f7380738173827383738573867388738a738c738d738f73907392739373947395739773987399739a739c739d739e73a073a173a373a473a573a673a773a873aa73ac73ad73b173b473b573b673b873b973bc73bd73be73bf73c173c373c473c573c673c7003f73cb73cc73ce73d273d373d473d573d673d773d873da73db73dc73dd73df73e173e273e373e473e673e873ea73eb73ec73ee73ef73f073f173f373f473f573f673f7,
 .run 0xe05e 94,
 .lit 51 0x73f873f973fa73fb73fc73fd73fe73ff740074017402740474077408740b740c740d740e741174127413741474157416741774187419741c741d741e741f742074217423742474277429742b742d742f74317432743774387439743a743b743d743e743f7440,
 .run 0x7442 12,
 .lit 11 0x003f744e744f7450745174527453745474567458745d,
 .run 0x7460 13,
 .lit 10 0x746e746f7471747274737474747574787479747a,
 .run 0xe0bc 94,
 .lit 34 0x747b747c747d747f748274847485748674887489748a748c748d748f749174927493749474957496749774987499749a749b749d749f74a074a174a274a374a474a574a6,
 .run 0x74aa 16,
 .run 0x74bb 13,
 .lit 34 0x003f74c874c974ca74cb74cc74cd74ce74cf74d074d174d374d474d574d674d774d874d974da74db74dd74df74e174e574e774e874e974ea74eb74ec74ed74f074f174f2,
 .run 0xe11a 94,
 .lit 97 0x74f374f574f874f974fa74fb74fc74fd74fe750075017502750375057506750775087509750a750b750c750e751075127514751575167517751b751d751e7520752175227523752475267527752a752e753475367539753c753d753f7541754275437544754675477549754a754d75507551755275537555755675577558003f755d755e755f75607561756275637564756775687569756b756c756d756e756f757075717573757575767577757a757b757c757d757e758075817582758475857587,
 .run 0xe178 94,
 .lit 97 0x75887589758a758c758d758e7590759375957598759b759c759e75a275a675a775a875a975aa75ad75b675b775ba75bb75bf75c075c175c675cb75cc75ce75cf75d075d175d375d775d975da75dc75dd75df75e075e175e575e975ec75ed75ee75ef75f275f375f575f675f775f875fa75fb75fd75fe7602760476067607003f76087609760b760d760e760f76117612761376147616761a761c761d761e7621762376277628762c762e762f76317632763676377639763a763b763d764176427644,
 .run 0xe1d6 94,
 .lit 128 0x76457646764776487649764a764b764e764f76507651765276537655765776587659765a765b765d765f766076617662766476657666766776687669766a766c766d766e767076717672767376747675767676777679767a767c767f76807681768376857689768a768c768d768f769076927694769576977698769a769b003f769c769d769e769f76a076a176a276a376a576a676a776a876a976aa76ab76ac76ad76af76b076b376b576b676b776b876b976ba76bb76bc76bd76be76c076c176c3554a963f57c3632854ce550954c07691764c853c77ee827e788d72319698978d6c285b894ffa630966975cb880fa684880ae660276ce51f9655671ac7ff1,
 .lit 128 0x888450b2596561ca6fb382ad634c625253ed54277b06516b75a45df462d48dcb9776628a8019575d97387f627238767d67cf767e64464f708d2562dc7a17659173ed642c6273822c9881677f7248626e62cc4f3474e3534a529e7eca90a65e2e6886699c81807ed168d278c5868c9551508d8c2482de80de53058912526576c476c776c976cb76cc76d376d576d976da76dc76dd76de76e076e176e276e376e476e676e776e876e976ea76eb76ec76ed76f076f376f576f676f776fa76fb76fd76ff77007702770377057706770a770c770e770f771077117712771377147715771677177718771b771c771d771e77217723772477257727772a772b003f772c,
 .lit 128 0x772e773077317732773377347739773b773d773e773f774277447745774677487749774a774b774c774d774e774f77527753775477557756775777587759775c858496f94fdd582199715b9d62b162a566b48c799c8d7206676f789160b2535153178f8880cc8d1d94a1500d72c8590760eb711988ab595482ef672c7b285d297ef7752d6cf58e668ff8903c9f3b6bd491197b145f7c78a784d6853d6bd56bd96bd65e015e8775f995ed655d5f0a5fc58f9f58c181c2907f965b97ad8fb97f168d2c62414fbf53d8535e8fa88fa98fab904d68075f6a819888689cd6618b522b762a5f6c658c6fd26ee85bbe6448517551b067c44e1979c9997c70b3775d775e,
 .lit 6 0x775f7760776477677769776a,
 .run 0x776d 12,
 .lit 14 0x777a777b777c7781778277837786778777887789778a778b778f7790,
 .run 0x7793 12,
 .lit 20 0x77a177a377a477a677a877ab77ad77ae77af77b177b277b477b677b777b877b977ba003f77bc77be,
 .run 0x77c0 13,
 .lit 128 0x77ce77cf77d077d177d277d377d477d577d677d877d977da77dd77de77df77e077e177e475c55e7673bb83e064ad62e894b56ce2535a52c3640f94c27b944f2f5e1b82368116818a6e246cca9a736355535c54fa886557e04e0d5e036b657c3f90e8601664e6731c88c16750624d8d22776c8e2991c75f6983dc8521991053c286956b8b60ed60e8707f82cd82314ed36ca785cf64cd7cd969fd66f9834953957b564fa7518c6d4b5c428e6d63d253c9832c833667e578b4643d5bdf5c945dee8be762c667f48c7a640063ba8749998b8c177f2094f24ea7961098a4660c731677e677e877ea77ef77f077f177f277f477f577f777f977fa77fb77fc78037804,
 .lit 50 0x7805780678077808780a780b780e780f7810781378157819781b781e78207821782278247828782a782b782e782f78317832783378357836783d783f7841784278437844784678487849784a784b784d784f78517853785478587859785a003f785b785c,
 .run 0x785e 12,
 .lit 128 0x786f787078717872787378747875787678787879787a787b787d787e787f7880788178827883573a5c1d5e38957f507f80a05382655e7545553150218d856284949e671d56326f6e5de2543570928f66626f64a463a35f7b6f8890f481e38fb05c1866685ff16c8996488d81886c649179f057ce6a59621054484e587a0b60e96f848bda627f901e9a8b79e4540375f4630153196c608fdf5f1b9a70803b9f7f4f885c3a8d647fc565a570bd514551b2866b5d075ba062bd916c75748e0c7a2061017b794ec77ef877854e1181ed521d51fa6a7153a88e87950496cf6ec19664695a7884788578867888788a788b788f789078927894789578967899789d789e,
 .lit 128 0x78a078a278a478a678a878a978aa78ab78ac78ad78ae78af78b578b678b778b878ba78bb78bc78bd78bf78c078c278c378c478c678c778c878cc78cd78ce78cf78d178d278d378d678d778d878da78db78dc78dd78de78df78e078e178e278e3003f78e478e578e678e778e978ea78eb78ed78ee78ef78f078f178f378f578f678f878f978fb78fc78fd78fe78ff79007902790379047906790779087909790a790b790c784050a877d7641089e6590463e35ddd7a7f693d4f20823955984e3275ae7a975e625e8a95ef521b5439708a6376952457826625693f918755076df37eaf882262337ef075b5832878c196cc8f9e614874f78bcd6b64523a8d506b21,
 .lit 69 0x806a847156f153064ece4e1b51d17c97918b7c074fc38e7f7be17a9c64675d1450ac810676017cb96dec7fe067515b585bf878cb64ae641363aa632b9519642d8fbe7b5476296253592754466b7950a362345e266b864ee38d37888b5f85902e790d790e790f791079117912791479157916791779187919791a791b791c791d791f7920792179227923,
 .run 0x7925 15,
 .lit 128 0x79357936793779387939793d793f79427943794479457947794a794b794c794d794e794f795079517952795479557958795979617963003f796479667969796a796b796c796e79707971797279737974797579767979797b797c797d797e797f798279837986798779887989798b798c798d798e7990799179926020803d62c54e39535590f863b880c665e66c2e4f4660ee6de18bde5f3986cb5f536321515a83616863520063638e4850125c9b79775bfc52307a3b60bc905376d75fb75f9776848e6c706f767b7b4977aa51f3909358244f4e6ef48fea654c7b1b72c46da47fdf5ae162b55e95573084827b2c5e1d5f1f90127f1498a063826ec7789870b9,
 .lit 34 0x5178975b57ab75354f4375385e9760e659606dc06bbf788953fc96d551cb52016389540a94938c038dcc7239789f87768fed8c0d53e07993799479957996799779987999,
 .run 0x799b 12,
 .lit 128 0x79a879a979aa79ab79ac79ad79ae79af79b079b179b279b479b579b679b779b879bc79bf79c279c479c579c779c879ca79cc79ce79cf79d079d379d479d679d779d979da79db79dc79dd79de79e079e179e279e579e879ea003f79ec79ee79f179f279f379f479f579f679f779f979fa79fc79fe79ff7a017a047a057a077a087a097a0a7a0c7a0f7a107a117a127a137a157a167a187a197a1b7a1c4e0176ef53ee948998769f0e952d5b9a8ba24e224e1c51ac846361c252a8680b4f97606b51bb6d1e515c6296659796618c46901775d890fd77636bd2728a72ec8bfb583577798d4c675c9540809a5ea66e2159927aef77ed953b6bb565ad7f0e58065151,
 .lit 48 0x961f5bf958a954288e726566987f56e4949d76fe9041638754c6591a593a579b8eb267358dfa8235524160f0581586fe5ce89e454fc4989d8bb95a2560765384627c904f9102997f6069800c513f80335c1499756d314e8c7a1d7a1f7a217a22,
 .run 0x7a24 15,
 .lit 27 0x7a347a357a367a387a3a7a3e7a407a417a427a437a447a457a477a487a497a4a7a4b7a4c7a4d7a4e7a4f7a507a527a537a547a557a56,
 .run 0x7a58 17,
 .lit 128 0x003f7a697a6a7a6b7a6c7a6d7a6e7a6f7a717a727a737a757a7b7a7c7a7d7a7e7a827a857a877a897a8a7a8b7a8c7a8e7a8f7a907a937a947a997a9a7a9b7a9e7aa17aa28d3053d17f5a7b4f4f104e4f96006cd573d085e95e06756a7ffb6a0a77fe94927e4151e170e653cd8fd483038d2972af996d6cdb574a82b365b980aa623f963259a84eff8bbf7eba653e83f2975e556198de80a5532a8bfd542080ba5e9f6cb88d3982ac915a54296c1b52067eb7575f711a6c7e7c89594b4efd5fff61247caa4e305c0167ab87025cf0950b98ce75af70fd902251af7f1d8bbd594951e44f5b5426592b657780a45b75627662c28f905e456c1f7b264f0f4fd8670d,
 .lit 128 0x7aa37aa47aa77aa97aaa7aab7aae7aaf7ab07ab17ab27ab47ab57ab67ab77ab87ab97aba7abb7abc7abd7abe7ac07ac17ac27ac37ac47ac57ac67ac77ac87ac97aca7acc7acd7ace7acf7ad07ad17ad27ad37ad47ad57ad77ad87ada7adb7adc7add7ae17ae27ae47ae77ae87ae97aea7aeb7aec7aee7af07af17af27af3003f7af47af57af67af77af87afb7afc7afe7b007b017b027b057b077b097b0c7b0d7b0e7b107b127b137b167b177b187b1a7b1c7b1d7b1f7b217b227b237b277b297b2d6d6e6daa798f88b15f17752b629a8f854fef91dc65a7812f81515e9c81508d74526f89868d4b590d50854ed8961c723681798d1f5bcc8ba3964459877f1a,
 .lit 128 0x54905676560e8be565396982949976d66e895e727518674667d17aff809d8d76611f79c665628d635188521a94a27f38809b7eb25c976e2f67607bd9768b9ad8818f7f947cd5641e95507a3f544a54e56b4c640162089e3d80f3759952729769845b683c86e49601969494ec4e2a54047ed968398ddf801566f45e9a7fb97b2f7b307b327b347b357b367b377b397b3b7b3d7b3f7b407b417b427b437b447b467b487b4a7b4d7b4e7b537b557b577b597b5c7b5e7b5f7b617b637b647b657b667b677b687b697b6a7b6b7b6c7b6d7b6f7b707b737b747b767b787b7a7b7c7b7d7b7f7b817b827b837b847b867b877b887b897b8a7b8b7b8c7b8e7b8f003f7b91,
 .lit 128 0x7b927b937b967b987b997b9a7b9b7b9e7b9f7ba07ba37ba47ba57bae7baf7bb07bb27bb37bb57bb67bb77bb97bba7bbb7bbc7bbd7bbe7bbf7bc07bc27bc37bc457c2803f68975de5653b529f606d9f9a4f9b8eac516c5bab5f135de96c5e62f18d21517194a952fe6c9f82df72d757a267848d2d591f8f9c83c754957b8d4f306cbd5b6459d19f1353e486ca9aa88c3780a16545987e56fa96c7522e74dc52505be1630289024e5662d0602a68fa51735b9851a089c27ba199867f5060ef704c8d2f51495e7f901b747089c4572d78455f529f9f95fa8f689b3c8be17678684267dc8dea8d35523d8f8a6eda68cd950590ed56fd679c88f98fc754c87bc57bc8,
 .lit 75 0x7bc97bca7bcb7bcd7bce7bcf7bd07bd27bd47bd57bd67bd77bd87bdb7bdc7bde7bdf7be07be27be37be47be77be87be97beb7bec7bed7bef7bf07bf27bf37bf47bf57bf67bf87bf97bfa7bfb7bfd7bff7c007c017c027c037c047c057c067c087c097c0a7c0d7c0e7c107c117c127c137c147c157c177c187c19003f7c1a7c1b7c1c7c1d7c1e7c207c217c227c237c247c257c287c29,
 .run 0x7c2b 13,
 .lit 111 0x7c397c3a7c3b7c3c7c3d7c3e7c429ab85b696d776c264ea55bb39a87916361a890af97e9542b6db55bd251fd558a7f557ff064bc634d65f161be608d710a6c576c49592f676d822a58d5568e8c6a6beb90dd597d801753f76d695475559d837783cf683879be548c4f55540876d28c8996026cb36db88d6b89109e648d3a563f9ed175d55f8872e0606854fc4ea86a2a886160528f7054c470d886799e3f6d2a5b8f5f187ea255894faf7334543c539a5019540e547c4e4e5ffd745a58f6846b80e1877472d07cca6e567c437c447c457c467c477c487c497c4a7c4b7c4c,
 .run 0x7c4e 37,
 .lit 128 0x7c757c767c777c787c797c7a7c7e7c7f7c807c817c827c837c847c857c867c87003f7c887c8a7c8b7c8c7c8d7c8e7c8f7c907c937c947c967c997c9a7c9b7ca07ca17ca37ca67ca77ca87ca97cab7cac7cad7caf7cb07cb47cb57cb67cb77cb87cba7cbb5f27864e552c62a44e926caa623782b154d7534e733e6ed1753b521253168bdd69d05f8a60006dee574f6b2273af68538fd87f13636260a3552475ea8c6271156da35ba65e7b8352614c9ec478fa87577c27768751f060f6714c66435e4c604d8c0e707063258f895fbd606286d456de6bc160946167534960e066668d3f79fd4f1a70e96c478bb38bf27ed88364660f5a5a9b426d516df78c416d3b,
 .lit 59 0x4f19706b83b7621660d1970d8d27797851fb573e57fa673a75787a3d79ef7b957cbf7cc07cc27cc37cc47cc67cc97ccb7cce7ccf7cd07cd17cd27cd37cd47cd87cda7cdb7cdd7cde7ce17ce27ce37ce47ce57ce67ce77ce97cea7ceb7cec7ced7cee7cf07cf17cf27cf37cf47cf57cf67cf77cf97cfa,
 .run 0x7cfc 14,
 .lit 7 0x7d0b7d0c7d0d7d0e7d0f7d10003f,
 .run 0x7d11 15,
 .lit 112 0x7d217d237d247d257d267d287d297d2a7d2c7d2d7d2e7d307d317d327d337d347d357d36808c99658ff96fc08ba59e2159ec7ee97f095409678168d88f917c4d96c653ca602575be6c7253735ac97ea7632451e0810a5df184df628051805b634f0e796d524260b86d4e5bc45bc28ba18bb065e25fcc964559937ee77eaa560967b759394f735bb652a0835a988a8d3e753294be50477a3c4ef767b69a7e5ac16b7c76d1575a5c167b3a95f4714e517c80a9827059787f04832768c067ec78b1787762e363617b804fed526a51cf835069db92748df58d3189c1952e7bad4ef6,
 .run 0x7d37 55,
 .lit 9 0x7d6f7d707d717d727d737d747d757d76003f,
 .run 0x7d78 33,
 .lit 94 0x506582305251996f6e106e856da75efa50f559dc5c066d466c5f7586848b686859568bb253209171964d854969127901712680f64ea490ca6d479a845a0756bc640594f077eb4fa5811a72e189d2997a7f347ede527f655991758f7f8f8353eb7a9663ed63a5768679f888579636622a52ab8282685467706377776b7aed6d017ed389e359d0621285c982a5754c501f4ecb75a58beb5c4a5dfe7b4b65a491d14eca6d25895f7d2795264ec58c288fdb9773664b79818fd170ec6d78,
 .run 0x7d99 13,
 .lit 7 0x7da77da87da97daa7dab7dac7dad,
 .run 0x7daf 43,
 .lit 1 0x003f,
 .run 0x7dda 33,
 .lit 94 0x5c3d52b283465162830e775b66769cb84eac60ca7cbe7cb37ecf4e958b66666f988897595883656c955c5f8475c997567adf7ade51c070af7a9863ea7a767ea0739697ed4e4570784e5d915253a9655165e781fc8205548e5c31759a97a062d872d975bd5c459a7983ca5c40548077e94e3e6cae805a62d2636e5de851778ddd8e1e952f4ff153e560e770ac526763509e435a1f5026773753777ee26485652b628963985014723589c951b38bc07edd574783cc94a7519b541b5cfb,
 .run 0x7dfb 63,
 .lit 12 0x003f7e3a7e3c7e3d7e3e7e3f7e407e427e437e447e457e46,
 .run 0x7e48 22,
 .lit 94 0x4fca7ae36d5a90e19a8f55805496536154af5f0063e9697751ef6168520a582a52d8574e780d770b5eb761777ce0625b62974ea27095800362f770e49760577782db67ef68f578d5989779d158f354b353ef6e34514b523b5ba28bfe80af554357a660735751542d7a7a60505b5463a762a053e362635bc767af54ed7a9f82e691775e9388e4593857ae630e8de880ef57577b774fa95feb5bbd6b3e53217b5072c2684677ff773665f751b54e8f76d45cbf7aa58475594e9b415080,
 .run 0x7e5e 36,
 .run 0x7e83 24,
 .lit 128 0x7e9c7e9d7e9e003f7eae7eb47ebb7ebc7ed67ee47eec7ef97f0a7f107f1e7f377f397f3b7f3c7f3d7f3e7f3f7f407f417f437f467f477f487f497f4a7f4b7f4c7f4d7f4e7f4f7f527f53998861276e8357646606634656f062ec62695ed39614578362c955878721814a8fa3556683b167658d5684dd5a6a680f62e67bee961151706f9c8c3063fd89c861d27f0670c26ee57405699472fc5eca90ce67176d6a635e52b3726280014f6c59e5916a70d96d9d52d24e5096f7956d857e78ca7d2f5121579264c2808b7c7b6cea68f1695e51b7539868a872819ece7bf172f879bb6f137406674e91cc9ca4793c83898354540f68174e3d538952b1783e53865229,
 .lit 128 0x50884f8b4fd07f567f597f5b7f5c7f5d7f5e7f607f637f647f657f667f677f6b7f6c7f6d7f6f7f707f737f757f767f777f787f7a7f7b7f7c7f7d7f7f7f807f827f837f847f857f867f877f887f897f8b7f8d7f8f7f907f917f927f937f957f967f977f987f997f9b7f9c7fa07fa27fa37fa57fa67fa87fa97faa7fab7fac7fad7fae7fb1003f7fb37fb47fb57fb67fb77fba7fbb7fbe7fc07fc27fc37fc47fc67fc77fc87fc97fcb7fcd7fcf7fd07fd17fd27fd37fd67fd77fd97fda7fdb7fdc7fdd7fde7fe27fe375e27acb7c926ca596b6529b748354e94fe9805483b28fde95705ec9601c6d9f5e18655b813894fe604b70bc7ec37cae51c968817cb1826f,
 .lit 128 0x4e248f8691cf667e4eae8c0564a9804a50da759771ce5be58fbd6f664e86648295635ed66599521788c270c852a3730e7433679778f797164e3490bb9cde6dcb51db8d41541d62ce73b283f196f69f8494c34f367f9a51cc707596755cad988653e64ee46e9c740969b4786b998f7559521876246d4167f3516d9f99804b54997b3c7abf7fe47fe77fe87fea7feb7fec7fed7fef7ff27ff47ff57ff67ff77ff87ff97ffa7ffd7ffe7fff8002800780088009800a800e800f80118013801a801b801d801e801f802180238024802b802c802d802e802f8030803280348039803a803c803e8040804180448045804780488049804e804f80508051805380558056,
 .lit 3 0x8057003f8059,
 .run 0x805b 14,
 .lit 6 0x806b806c806d806e806f8070,
 .run 0x8072 12,
 .lit 128 0x9686578462e29647697c5a0464027bd36f0f964b82a6536298855e90708963b35364864f9c819e93788c97328def8d429e7f6f5e79845f559646622e9a74541594dd4fa365c55c655c617f1586516c2f5f8b73876ee47eff5ce6631b5b6a6ee653754e7163a0756562a18f6e4f264ed16ca67eb68bba841d87ba7f57903b95237ba99aa188f8843d6d1b9a867edc59889ebb739b780186829a6c9a82561b541757cb4e709ea653568fc881097792999286ee6ee1851366fc61626f2b807e8081808280858088808a808d808e808f8090809180928094809580978099809e80a380a680a780a880ac80b080b380b580b680b880b980bb80c580c780c880c980ca,
 .lit 37 0x80cb80cf80d080d180d280d380d480d580d880df80e080e280e380e680ee80f580f780f980fb80fe80ff8100810181038104810581078108810b003f810c811581178119811b811c811d,
 .run 0x811f 13,
 .lit 128 0x812d812e813081338134813581378139813a813b813c813d813f8c298292832b76f26c135fd983bd732b8305951a6bdb77db94c6536f830251925e3d8c8c8d384e4873ab679a68859176970971646ca177095a9295416bcf7f8e66275bd059b95a9a95e895f74eec840c84996aac76df9530731b68a65b5f772f919a97617cdc8ff78c1c5f257c7379d889c56ccc871c5bc65e4268c977207ef55195514d52c95a297f05976282d763cf778485d079d26e3a5e9959998511706d6c1162bf76bf654f60af95fd660e879f9e2394ed540d547d8c2c647881408141814281438144814581478149814d814e814f8152815681578158815b815c815d815e815f8161,
 .lit 128 0x81628163816481668168816a816b816c816f8172817381758176817781788181818381848185818681878189818b818c818d818e81908192819381948195819681978199819a819e819f81a081a181a281a481a5003f81a781a981ab81ac81ad81ae81af81b081b181b281b481b581b681b781b881b981bc81bd81be81bf81c481c581c781c881c981cb81cd81ce81cf81d081d181d281d3647986116a21819c78e864699b5462b9672b83ab58a89ed86cab6f205bde964c8c0b725f67d062c772614ea959c66bcd589366ae5e5552df6155672876ee776672677a4662ff54ea545094a090a35a1c7eb36c164e435976801059485357753796be56ca63208111,
 .lit 42 0x607c95f96dd65462998151855ae980fd59ae9713502a6ce55c3c62df4f60533f817b90066eba852b62c85e7478be64b5637b5ff55a18917f9e1f5c3f634f80425b7d556e954a954d6d8560a867e072de51dd5b81,
 .run 0x81d4 15,
 .lit 128 0x81e481e581e681e881e981eb81ee81ef81f081f181f281f581f681f781f881f981fa81fd81ff8203820782088209820a820b820e820f8211821382158216821782188219821a821d822082248225822682278229822e8232823a823c823d823f003f8240824182428243824582468248824a824c824d824e825082518252825382548255825682578259825b825c825d825e82608261826282638264826582668267826962e76cde725b626d94ae7ebd81136d53519c5f04597452aa6012597366968650759f632a61e67cef8bfa54e66b279e256bb485d5545550766ca4556a8db4722c5e156015743662cd6392724c5f986e436d3e65006f5876d878d076fc,
 .lit 128 0x7554522453db4e535e9e65c1802a80d6629b5486522870ae888d8dd16ce1547880da57f988f48d54966a914d4f696c9b55b776c6783062a870f96f8e5f6d84ec68da787c7bf781a8670b9e4f636778b0576f78129739627962ab528874356bd7826a826b826c826d82718275827682778278827b827c8280828182838285828682878289828c82908293829482958296829a829b829e82a082a282a382a782b282b582b682ba82bb82bc82bf82c082c282c382c582c682c982d082d682d982da82dd82e282e782e882e982ea82ec82ed82ee82f082f282f382f582f682f8003f82fa82fc82fd82fe82ff8300830a830b830d831083128313831683188319831d,
 .lit 128 0x831e831f83208321832283238324832583268329832a832e833083328337833b833d5564813e75b276ae533975de50fb5c418b6c7bc7504f72479a9798d86f0274e27968648777a562fc98918d2b54c180584e52576a82f9840d5e7351ed74f68bc45c4f57616cfc98875a4678349b448feb7c955256625194fa4ec68386846183e984b257d467345703666e6d668c3166dd7011671f6b3a6816621a59bb4e0351c46f0667d26c8f517668cb59476b6775665d0e81109f5065d7794879419a918d775c824e5e4f01542f5951780c56686c148fc45f036c7d6ce38bab6390833e833f83418342834483458348834a834b834c834d834e83538355835683578358,
 .lit 128 0x8359835d836283708371837283738374837583768379837a837e837f8380838183828383838483878388838a838b838c838d838f8390839183948395839683978399839a839d839f83a183a283a383a483a583a683a783ac83ad83ae003f83af83b583bb83be83bf83c283c383c483c683c883c983cb83cd83ce83d083d183d283d383d583d783d983da83db83de83e283e383e483e683e783e883eb83ec83ed60706d3d72756266948e94c553438fc17b7e4edf8c264e7e9ed494b194b3524d6f5c90636d458c3458115d4c6b206b4967aa545b81547f8c589985375f3a62a26a47953965726084686577a74e544fa85de7979864ac7fd85ced4fcf7a8d5207,
 .lit 128 0x83044e14602f7a8394a64fb54eb279e6743452e482b964d279bd5bdd6c8197528f7b6c22503e537f6e0564ce66746c3060c598778bf75e86743c7a7779cb4e1890b174036c4256da914b6cc58d8b533a86c666f28eaf5c489a716e2083ee83ef83f383f483f583f683f783fa83fb83fc83fe83ff840084028405840784088409840a84108412841384148415841684178419841a841b841e841f84208421842284238429842a842b842c842d842e842f84308432843384348435843684378439843a843b843e843f844084418442844384448445844784488449003f844a844b844c844d844e844f8450845284538454845584568458845d845e845f84608462,
 .lit 128 0x84648465846684678468846a846e846f84708472847484778479847b847c53d65a369f8b8da353bb570898a76743919b6cc9516875ca62f372ac5238529d7f3a7094763853749e4a69b7786e96c088d97fa4713671c3518967d374e458e4651856b78ba9997662707ed560f970ed58ec4ec14eba5fcd97e74efb8ba45203598a7eab62544ecd65e5620e833884c98363878d71946eb65bb97ed2519763c967d480898339881551125b7a59828fb14e736c5d516589258f6f962e854a745e951095f06da682e55f3164926d128428816e9cc3585e8d5b4e0953c1847d847e847f848084818483848484858486848a848d848f8490849184928493849484958496,
 .lit 7 0x8498849a849b849d849e849f84a0,
 .run 0x84a2 13,
 .lit 128 0x84b084b184b384b584b684b784bb84bc84be84c084c284c384c584c684c784c884cb84cc84ce84cf84d284d484d584d7003f84d884d984da84db84dc84de84e184e284e484e784e884e984ea84eb84ed84ee84ef84f184f284f384f484f584f684f784f884f984fa84fb84fd84fe8500850185024f1e6563685155d34e2764149a9a626b5ac2745f82726da968ee50e7838e7802674052396c997eb150bb5565715e7b5b665273ca82eb67495c715220717d886b95ea965564c58d6181b355846c5562477f2e58924f2455468d4f664c4e0a5c1a88f368a2634e7a0d70e7828d52fa97f65c1154e890b57ecd59628d4a86c7820c820d8d6664445c0461516d89,
 .lit 128 0x793e8bbe78377533547b4f388eab6df15a207ec5795e6c885ba15a76751a80be614e6e1758f0751f7525727253477ef38503850485058506850785088509850a850b850d850e850f8510851285148515851685188519851b851c851d851e852085228523852485258526852785288529852a852d852e852f8530853185328533853485358536853e853f8540854185428544854585468547854b854c854d854e854f855085518552855385548555003f85578558855a855b855c855d855f85608561856285638565856685678569856a856b856c856d856e856f8570857185738575857685778578857c857d857f85808581770176db526980dc57235e085931,
 .lit 128 0x72ee65bd6e7f8bd75c388671534177f362fe65f64ec098df86805b9e8bc653f277e24f7f5c4e9a7659cb5f0f793a58eb4e1667ff4e8b62ed8a93901d52bf662f55dc566c90024ed54f8d91ca99706c0f5e0260435ba489c68bd56536624b99965b885bff6388552e53d77626517d852c67a268b36b8a62928f9353d482126dd1758f4e668d4e5b70719f85af669166d97f7287009ecd9f205c5e672f8ff06811675f620d7ad658855eb665706f3185828583858685888589858a858b858c858d858e8590859185928593859485958596859785988599859a859d859e859f85a085a185a285a385a585a685a785a985ab85ac85ad85b185b285b385b485b585b6,
 .lit 41 0x85b885ba85bb85bc85bd85be85bf85c085c285c385c485c585c685c785c885ca85cb85cc85cd85ce85d185d2003f85d485d685d785d885d985da85db85dd85de85df85e085e185e285e385e585e685e785e8,
 .run 0x85ea 15,
 .lit 119 0x60555237800d6454887075295e05681362f4971c53cc723d8c016c3477617a0e542e77ac987a821c8bf47855671470c165af64955636601d79c153f84e1d6b7b80865bfa55e356db4f3a4f3c99725df3677e80386002988290015b8b8bbc8bf5641c825864de55fd82cf91654fd77d20901f7c9f50f358516eaf5bbf8bc980839178849c7b97867d968b968f7ee59ad3788e5c817a57904296a7795f5b59635f7b0b84d168ad55067f2974107d2295016240584c4ed65b835979585485f985fa85fc85fd85fe860086018602860386048606860786088609860a860b860c860d860e860f86108612861386148615,
 .run 0x8617 16,
 .lit 1 0x8628,
 .run 0x862a 14,
 .lit 8 0x8639863a863b863d863e863f8640003f,
 .run 0x8641 12,
 .lit 128 0x8652865386558656865786588659865b865c865d865f866086618663866486658666866786688669866a736d631e8e4b8e0f80ce82d462ac53f06cf0915e592a60016c70574d644a8d2a762b6ee9575b6a8075f06f6d8c2d8c0857666bef889278b363a253f970ad6c645858642a580268e0819b55107cd650188eba6dcc8d9f70eb638f6d9b6ed47ee68404684390036dd896768ba85957727985e4817e75bc8a8a68af52548e22951163d098988e44557c4f5366ff568f60d56d9552435c4959296dfb586b7530751c606c82148146631167618fe2773a8df38d3494c15e165385542c70c3866d866f86708672867386748675867686778678868386848685,
 .lit 128 0x8686868786888689868e868f86908691869286948696869786988699869a869b869e869f86a086a186a286a586a686ab86ad86ae86b286b386b786b886b986bb86bc86bd86be86bf86c186c286c386c586c886cc86cd86d286d386d586d686d786da86dc003f86dd86e086e186e286e386e586e686e786e886ea86eb86ec86ef86f586f686f786fa86fb86fc86fd86ff8701870487058706870b870c870e870f87108711871487166c405ef7505c4ead5ead633a8247901a6850916e77b3540c94dc5f647ae5687663457b527edf75db507762955934900f51f879c37a8156fe5f9290146d825c60571f541051546e4d56e263a89893817f8715892a9000541e,
 .lit 128 0x5c6f81c062d6625881319e3596409a6e9a7c692d59a562d3553e631654c786d96d3c5a0374e6889c6b6a59168c4c5f2f6e7e73a9987d4e3870f75b8c7897633d665a769660cb5b9b5a494e0781556c6a738b4ea167897f515f8065fa671b5fd859845a018719871b871d871f87208724872687278728872a872b872c872d872f8730873287338735873687388739873a873c873d8740874187428743874487458746874a874b874d874f8750875187528754875587568758875a875b875c875d875e875f876187628766876787688769876a876b876c876d876f8771877287738775003f877787788779877a877f878087818784878687878789878a878c878e,
 .lit 128 0x878f87908791879287948795879687988799879a879b879c879d879e87a087a187a287a387a45dcd5fae537197e68fdd684556f4552f60df4e3a6f4d7ef482c7840e59d44f1f4f2a5c3e7eac672a851a5473754f80c355829b4f4f4d6e2d8c135c096170536b761f6e29868a658795fb7eb9543b7a337d0a95ee55e17fc174ee631d87176da17a9d621165a1536763e16c835deb545c94a84e4c6c618bec5c4b65e0829c68a7543e54346bcb6b664e9463425348821e4f0d4fae575e620a96fe6664726952ff52a1609f8bef661471996790897f785277fd6670563b54389521727a87a587a687a787a987aa87ae87b087b187b287b487b687b787b887b987bb,
 .lit 128 0x87bc87be87bf87c187c287c387c487c587c787c887c987cc87cd87ce87cf87d087d487d587d687d787d887d987da87dc87dd87de87df87e187e287e387e487e687e787e887e987eb87ec87ed87ef87f087f187f287f387f487f587f687f787f8003f87fa87fb87fc87fd87ff880088018802880488058806880788088809880b880c880d880e880f8810881188128814881788188819881a881c881d881e881f882088237a00606f5e0c6089819d591560dc718470ef6eaa6c5072806a8488ad5e2d4e605ab3559c94e36d177cfb9699620f7ec6778e867e5323971e8f9666875ce14fa072ed4e0b53a6590f54136380952851484ed99c9c7ea454b88d248854,
 .lit 48 0x823795f26d8e5f265acc663e966973b0732e53bf817a99857fa15baa967796507ebf76f853a2957699997bb189446e584e617fd479658be660f354cd4eab98795df76a6150cf54118c618427785d9704524a54ee56a395006d885bb56dc66653,
 .run 0x8824 14,
 .lit 128 0x883388348835883688378838883a883b883d883e883f8841884288438846884788488849884a884b884e884f8850885188528853885588568858885a885b885c885d885e885f886088668867886a886d886f8871887388748875887688788879887a003f887b887c88808883888688878889888a888c888e888f88908891889388948895889788988899889a889b889d889e889f88a088a188a388a588a688a788a888a988aa5c0f5b5d6821809655787b11654869544e9b6b47874e978b534f631f643a90aa659c80c18c10519968b0537887f961c86cc46cfb8c225c5185aa82af950c6b238f9b65b05ffb5fc34fe18845661f8165732960fa51745211578b,
 .lit 128 0x5f6290a2884c91925e78674f602759d3514451f680f853086c7996c4718a4f114fee7f9e673d55c5950879c088967ee3589f620c9700865a5618987b5f908bb884c4915753d965ed5e8f755c60647d6e5a7f7eea7eed8f6955a75ba360ac65cb738488ac88ae88af88b088b288b388b488b588b688b888b988ba88bb88bd88be88bf88c088c388c488c788c888ca88cb88cc88cd88cf88d088d188d388d688d788da88db88dc88dd88de88e088e188e688e788e988ea88eb88ec88ed88ee88ef88f288f588f688f788fa88fb88fd88ff89008901890389048905890689078908003f8909890b890c890d890e890f891189148915891689178918891c891d891e,
 .lit 123 0x891f89208922892389248926892789288929892c892d892e892f893189328933893589379009766377297eda9774859b5b667a7496ea884052cb718f5faa65ec8be25bfb9a6f5de16b896c5b8bad8baf900a8fc5538b62bc9e269e2d54404e2b82bd7259869c5d1688596daf96c554d14e9a8bb6710954bd960970df6df976d04e25781487125ca95ef68a00989c960e708e6cbf594463a9773c884d6f148273583071d5538c781a96c155015f6671305bb48c1a9a8c6b83592e9e2f79e76768626c4f6f75a17f8a6d0b96336c274ef075d2517b68376f3e908081705996747689388939893a893b893c893d893e893f894089428943,
 .run 0x8945 25,
 .lit 6 0x896089618962896389648965,
 .run 0x8967 20,
 .lit 8 0x897c003f897d897e8980898289848985,
 .run 0x8987 27,
 .lit 94 0x64475c2790657a918c2359da54ac8200836f898180006930564e8036723791ce51b64e5f987563964e1a53f666f3814b591c6db24e0058f9533b63d694f14f9d4f0a886398905937905779fb4eea80f075916c825b9c59e85f5d69058681501a5df24e5977e34ee5827a6291661390915c794ebf5f7981c69038808475ab4ea688d4610f6bc55fc64e4976ca6ea28be38bae8c0a8bd15f027ffc7fcc7ece8335836b56e06bb797f3963459fb541f94f66deb5bc5996e5c395f159690,
 .run 0x89a2 31,
 .lit 44 0x89c389cd89d389d489d589d789d889d989db89dd89df89e089e189e289e489e789e889e989ea89ec89ed89ee89f089f189f289f489f589f689f789f889f989fa003f89fb89fc89fd89fe89ff8a018a028a038a048a058a06,
 .run 0x8a08 22,
 .lit 94 0x537082f16a315a749e705e947f2883b984248425836787478fce8d6276c85f719896786c662054df62e54f6381c375c85eb896cd8e0a86f9548f6cf36d8c6c38607f52c775285e7d4f1860a05fe75c24753190ae94c072b96cb96e389149670953cb53f34f5191c98bf153c85e7c8fc26de44e8e76c26986865e611a82064f594fde903e9c7c61096e1d6e1496854e885a3196e84e0e5c7f79b95b878bed7fbd738957df828b90c15401904755bb5cea5fa161086b3272f180b28a89,
 .run 0x8a1e 32,
 .lit 9 0x8a3f8a408a418a428a438a448a458a468a47,
 .run 0x8a49 22,
 .lit 1 0x003f,
 .run 0x8a5f 26,
 .lit 117 0x8a7a8a7b8a7c8a7d8a7e8a7f8a806d745bd388d598848c6b9a6d9e336e0a51a4514357a38881539f63f48f9556ed54585706733f6e907f188fdc82d1613f6028966266f07ea68d8a8dc394a55cb37ca4670860a6960580184e9190e75300966851418fd08574915d665597f55b55531d78386742683d54c9707e5bb08f7d518d572854b1651266828d5e8d43810f846c906d7cdf51ff85fb67a365e96fa186a48e81566a90207682707671e58d2362e952196cfd8d3c600e589e618e66fe8d60624e55b36e23672d8f678a818a828a838a848a858a868a878a888a8b8a8c8a8d8a8e8a8f8a908a918a92,
 .run 0x8a94 47,
 .lit 1 0x003f,
 .run 0x8ac3 33,
 .lit 94 0x94e195f87728680569a8548b4e4d70b88bc86458658b5b857a84503a5be877bb6be18a797c986cbe76cf65a98f975d2d5c5586386808536062187ad96e5b7efd6a1f7ae05f706f335f20638c6da867564e085e108d264ed780c07634969c62db662d627e6cbc8d7571677f695146808753ec906e629854f286f08f998005951785178fd96d5973cd659f771f7504782781fb8d1e94884fa6679575b98bca9707632f9547963584b8632377415f8172f04e896014657462ef6b63653f,
 .run 0x8ae4 35,
 .run 0x8b08 28,
 .lit 3 0x003f8b248b25,
 .run 0x8b27 31,
 .lit 94 0x5e2775c790d18bc1829d679d652f5431871877e580a281026c414e4b7ec7804c76f4690d6b966267503c4f84574063076b628dbe53ea65e87eb85fd7631a63b781f381f47f6e5e1c5cd95236667a79e97a1a8d28709975d46ede6cbb7a924e2d76c55fe0949f88777ec879cd80bf91cd4ef24f17821f54685dde6d328bcc7ca58f7480985e1a549276b15b99663c9aa473e0682a86db6731732a8bf88bdb90107af970db716e62c477a956314e3b845767f152a986c08d2e94f87b51,
 .run 0x8b46 32,
 .lit 5 0x8b678b688b698b6a8b6b,
 .run 0x8b6d 26,
 .lit 1 0x003f,
 .run 0x8b87 25,
 .lit 128 0x8bac8bb18bbb8bc78bd08bea8c098c1e4f4f6ce8795d9a7b6293722a62fd4e1378168f6c64b08d5a7bc668695e8488c55986649e58ee72b6690e95258ffd8d5857607f008c0651c6634962d95353684c74228301914c55447740707c6d4a517954a88d4459ff6ecb6dc45b5c7d2b4ed47c7d6ed35b5081ea6e0d5b579b0368d58e2a5b977efc603b7eb590b98d70594f63cd79df8db3535265cf79568bc5963b7ec494bb7e825634918967007f6a5c0a907566285de64f5067de505a4f5c57505ea7e810e811e812e813e8148c388c398c3a8c3b8c3c8c3d8c3e8c3f8c408c428c438c448c458c488c4a8c4b8c4d8c4e8c4f8c508c518c528c538c548c568c57,
 .lit 50 0x8c588c598c5b8c5c8c5d8c5e8c5f8c608c638c648c658c668c678c688c698c6c8c6d8c6e8c6f8c708c718c728c748c758c768c778c7b8c7c8c7d8c7e8c7f8c808c818c838c848c868c87003f8c888c8b8c8d8c8e8c8f8c908c918c928c938c958c968c97,
 .run 0x8c99 21,
 .lit 94 0x4e8d4e0c51404e105eff53454e154e984e1e9b325b6c56694e2879ba4e3f53154e47592d723b536e6c1056df80e499976bd3777e9f174e364e9f9f104e5c4e694e9382885b5b556c560f4ec4538d539d53a353a553ae97658d5d531a53f55326532e533e8d5c5366536352025208520e522d5233523f5240524c525e5261525c84af527d528252815290529351827f544ebb4ec34ec94ec24ee84ee14eeb4ede4f1b4ef34f224f644ef54f254f274f094f2b4f5e4f6765384f5a4f5d,
 .run 0x8cae 63,
 .lit 1 0x003f,
 .run 0x8ced 33,
 .lit 94 0x4f5f4f574f324f3d4f764f744f914f894f834f8f4f7e4f7b4faa4f7c4fac4f944fe64fe84fea4fc54fda4fe34fdc4fd14fdf4ff85029504c4ff3502c500f502e502d4ffe501c500c50255028507e504350555048504e506c507b50a550a750a950ba50d6510650ed50ec50e650ee5107510b4edd6c3d4f584f654fce9fa06c467c74516e5dfd9ec999985181591452f9530d8a07531051eb591951554ea051564eb3886e88a44eb5811488d279805b3488037fb851ab51b151bd51bc,
 .run 0x8d0e 15,
 .lit 50 0x8d208d518d528d578d5f8d658d688d698d6a8d6c8d6e8d6f8d718d728d788d798d7a8d7b8d7c8d7d8d7e8d7f8d808d828d838d868d878d888d898d8c8d8d8d8e8d8f8d908d928d938d958d968d978d988d998d9a8d9b8d9c8d9d8d9e8da08da1003f8da2,
 .run 0x8da4 13,
 .lit 128 0x8db28db68db78db98dbb8dbd8dc08dc18dc28dc58dc78dc88dc98dca8dcd8dd08dd28dd38dd451c7519651a251a58ba08ba68ba78baa8bb48bb58bb78bc28bc38bcb8bcf8bce8bd28bd38bd48bd68bd88bd98bdc8bdf8be08be48be88be98bee8bf08bf38bf68bf98bfc8bff8c008c028c048c078c0c8c0f8c118c128c148c158c168c198c1b8c188c1d8c1f8c208c218c258c278c2a8c2b8c2e8c2f8c328c338c358c365369537a961d962296219631962a963d963c964296499654965f9667966c967296749688968d969796b09097909b909d909990ac90a190b490b390b690ba8dd58dd88dd98ddc8de08de18de28de58de68de78de98ded8dee8df08df1,
 .lit 64 0x8df28df48df68dfc8dfe8dff8e008e018e028e038e048e068e078e088e0b8e0d8e0e8e108e118e128e138e158e168e178e188e198e1a8e1b8e1c8e208e218e248e258e268e278e288e2b8e2d8e308e328e338e348e368e378e388e3b8e3c8e3e003f8e3f8e438e458e468e4c8e4d8e4e8e4f8e508e538e548e558e568e578e58,
 .run 0x8e5a 12,
 .lit 128 0x8e678e688e6a8e6b8e6e8e7190b890b090cf90c590be90d090c490c790d390e690e290dc90d790db90eb90ef90fe91049122911e91239131912f913991439146520d594252a252ac52ad52be54ff52d052d652f053df71ee77cd5ef451f551fc9b2f53b65f01755a5def574c57a957a1587e58bc58c558d15729572c572a57335739572e572f575c573b574257695785576b5786577c577b5768576d5776577357ad57a4578c57b257cf57a757b4579357a057d557d857da57d957d257b857f457ef57f857e457dd8e738e758e778e788e798e7a8e7b8e7d8e7e8e808e828e838e848e868e888e898e8a8e8b8e8c8e8d8e8e8e918e928e938e958e968e978e98,
 .lit 4 0x8e998e9a8e9b8e9d,
 .run 0x8e9f 12,
 .lit 31 0x8ead8eae8eb08eb18eb38eb48eb58eb68eb78eb88eb98ebb8ebc8ebd8ebe8ebf8ec08ec18ec2003f8ec38ec48ec58ec68ec78ec88ec98eca8ecb8ecc8ecd,
 .run 0x8ecf 22,
 .lit 94 0x580b580d57fd57ed5800581e5819584458205865586c58815889589a588099a89f1961ff8279827d827f828f828a82a88284828e82918297829982ab82b882be82b082c882ca82e3829882b782ae82cb82cc82c182a982b482a182aa829f82c482ce82a482e1830982f782e4830f830782dc82f482d282d8830c82fb82d38311831a83068314831582e082d5831c8351835b835c83088392833c83348331839b835e832f834f83478343835f834083178360832d833a833383668365,
 .run 0x8ee5 63,
 .lit 1 0x003f,
 .run 0x8f24 33,
 .lit 94 0x8368831b8369836c836a836d836e83b0837883b383b483a083aa8393839c8385837c83b683a9837d83b8837b8398839e83a883ba83bc83c1840183e583d858078418840b83dd83fd83d6841c84388411840683d483df840f840383f883f983ea83c583c0842683f083e1845c8451845a8459847384878488847a84898478843c844684698476848c848e8431846d84c184cd84d084e684bd84d384ca84bf84ba84e084a184b984b4849784e584e3850c750d853884f08539851f853a,
 .run 0x8f45 33,
 .lit 128 0x8f6a8f808f8c8f928f9d8fa08fa18fa28fa48fa58fa68fa78faa8fac8fad8fae8faf8fb28fb38fb48fb58fb78fb88fba8fbb8fbc8fbf8fc08fc38fc6003f8fc98fca8fcb8fcc8fcd8fcf8fd28fd68fd78fda8fe08fe18fe38fe78fec8fef8ff18ff28ff48ff58ff68ffa8ffb8ffc8ffe8fff90079008900c900e9013901590188556853b84ff84fc8559854885688564855e857a77a285438572857b85a485a88587858f857985ae859c858585b985b785b085d385c185dc85ff8627860586298616863c5efe5f08593c594180375955595a5958530f5c225c255c2c5c34624c626a629f62bb62ca62da62d762ee632262f66339634b634363ad63f66371637a,
 .lit 128 0x638e63b4636d63ac638a636963ae63bc63f263f863e063ff63c463de63ce645263c663be64456441640b641b6420640c64266421645e6484646d64969019901c902390249025902790289029902a902b902c9030903190329033903490379039903a903d903f904090439045904690489049904a904b904c904e9054905590569059905a905c905d905e905f906090619064906690679069906a906b906c906f90709071907290739076907790789079907a907b907c907e9081003f90849085908690879089908a908c908d908e908f90909092909490969098909a909c909e909f90a090a490a590a790a890a990ab90ad90b290b790bc90bd90bf90c0647a,
 .lit 128 0x64b764b8649964ba64c064d064d764e464e265096525652e5f0b5fd275195f11535f53f153fd53e953e853fb541254165406544b545254535454545654435421545754595423543254825494547754715464549a549b548454765466549d54d054ad54c254b454d254a754a654d354d4547254a354d554bb54bf54cc54d954da54dc54a954aa54a454dd54cf54de551b54e7552054fd551454f355225523550f55115527552a5567558f55b55549556d55415555553f5550553c90c290c390c690c890c990cb90cc90cd90d290d490d590d690d890d990da90de90df90e090e390e490e590e990ea90ec90ee90f090f190f290f390f590f690f790f990fa90fb,
 .lit 5 0x90fc90ff910091019103,
 .run 0x9105 20,
 .lit 128 0x911a911b911c003f911d911f91209121912491259126912791289129912a912b912c912d912e91309132913391349135913691379138913a913b913c913d913e913f91409141914291445537555655755576557755335530555c558b55d2558355b155b955885581559f557e55d65591557b55df55bd55be5594559955ea55f755c9561f55d155eb55ec55d455e655dd55c455ef55e555f255f355cc55cd55e855f555e48f94561e5608560c56015624562355fe56005627562d565856395657562c564d56625659565c564c5654568656645671566b567b567c5685569356af56d456d756dd56e156f556eb56f956ff5704570a5709571c5e0f5e195e145e11,
 .lit 128 0x5e315e3b5e3c9145914791489151915391549155915691589159915b915c915f9160916691679168916b916d9173917a917b917c9180918191829183918491869188918a918e918f9193919491959196919791989199919c919d919e919f91a091a191a491a591a691a791a891a991ab91ac91b091b191b291b391b691b791b891b991bb003f91bc91bd91be91bf91c091c191c291c391c491c591c691c891cb91d091d291d391d491d591d691d791d891d991da91db91dd91de91df91e091e191e291e391e491e55e375e445e545e5b5e5e5e615c8c5c7a5c8d5c905c965c885c985c995c915c9a5c9c5cb55ca25cbd5cac5cab5cb15ca35cc15cb75cc45cd2,
 .lit 66 0x5ce45ccb5ce55d025d035d275d265d2e5d245d1e5d065d1b5d585d3e5d345d3d5d6c5d5b5d6f5d5d5d6b5d4b5d4a5d695d745d825d995d9d8c735db75dc55f735f775f825f875f895f8c5f955f995f9c5fa85fad5fb55fbc88625f6172ad72b072b472b772b872c372c172ce72cd72d272e872ef72e972f272f472f7730172f3730372fa,
 .run 0x91e6 63,
 .lit 1 0x003f,
 .run 0x9225 33,
 .lit 94 0x72fb731773137321730a731e731d7315732273397325732c733873317350734d73577360736c736f737e821b592598e7592459029963996799689969996a996b996c99749977997d998099849987998a998d999099919993999499955e805e915e8b5e965ea55ea05eb95eb55ebe5eb38d535ed25ed15edb5ee85eea81ba5fc45fc95fd65fcf60035fee60045fe15fe45ffe600560065fea5fed5ff8601960356026601b600f600d6029602b600a603f602160786079607b607a6042,
 .run 0x9246 46,
 .run 0x9275 17,
 .lit 9 0x003f9286928792889289928a928b928c928d,
 .run 0x928f 25,
 .lit 100 0x606a607d6096609a60ad609d60836092608c609b60ec60bb60b160dd60d860c660da60b4612061266115612360f46100610e612b614a617561ac619461a761b761d461f55fdd96b395e995eb95f195f395f595f695fc95fe9603960496069608960a960b960c960d960f96129615961696179619961a4e2c723f62156c356c546c5c6c4a6ca36c856c906c946c8c6c686c696c746c766c866ca96cd06cd46cad6cf76cf86cf16cd76cb26ce06cd66cfa6ceb6cee6cb16cd36cef6cfe92a892a992aa92ab92ac92ad,
 .run 0x92af 25,
 .run 0x92c9 32,
 .lit 1 0x003f,
 .run 0x92e9 33,
 .lit 94 0x6d396d276d0c6d436d486d076d046d196d0e6d2b6d4d6d2e6d356d1a6d4f6d526d546d336d916d6f6d9e6da06d5e6d936d946d5c6d606d7c6d636e1a6dc76dc56dde6e0e6dbf6de06e116de66ddd6dd96e166dab6e0c6dae6e2b6e6e6e4e6e6b6eb26e5f6e866e536e546e326e256e446edf6eb16e986ee06f2d6ee26ea56ea76ebd6ebb6eb76ed76eb46ecf6e8f6ec26e9f6f626f466f476f246f156ef96f2f6f366f4b6f746f2a6f096f296f896f8d6f8c6f786f726f7c6f7a6fd1,
 .run 0x930a 52,
 .lit 12 0x933f9340934193429343934493459346934793489349003f,
 .run 0x934a 32,
 .lit 95 0x936b6fc96fa76fb96fb66fc26fe16fee6fde6fe06fef701a7023701b70397035704f705e5b805b845b955b935ba55bb8752f9a9e64345be45bee89305bf08e478b078fb68fd38fd58fe58fee8fe48fe98fe68ff38fe890059004900b90269011900d9016902190359036902d902f9044905190529050906890589062905b66b99074907d908290889083908b5f505f575f565f585c3b54ab5c505c595b715c635c667fbc5f2a5f295f2d82745f3c9b3b5c6e59815983598d59a959aa59a3,
 .run 0x936c 35,
 .run 0x9390 28,
 .lit 1 0x003f,
 .run 0x93ac 30,
 .lit 105 0x93cb93cc93cd599759ca59ab599e59a459d259b259af59d759be5a055a0659dd5a0859e359d859f95a0c5a095a325a345a115a235a135a405a675a4a5a555a3c5a625a7580ec5aaa5a9b5a775a7a5abe5aeb5ab25ad25ad45ab85ae05ae35af15ad65ae65ad85adc5b095b175b165b325b375b405c155c1c5b5a5b655b735b515b535b629a759a779a789a7a9a7f9a7d9a809a819a859a889a8a9a909a929a939a969a989a9b9a9c9a9d9a9f9aa09aa29aa39aa59aa77e9f7ea17ea37ea57ea87ea993ce93cf93d093d193d293d393d493d5,
 .run 0x93d7 55,
 .lit 1 0x003f,
 .run 0x940e 33,
 .lit 94 0x7ead7eb07ebe7ec07ec17ec27ec97ecb7ecc7ed07ed47ed77edb7ee07ee17ee87eeb7eee7eef7ef17ef27f0d7ef67efa7efb7efe7f017f027f037f077f087f0b7f0c7f0f7f117f127f177f197f1c7f1b7f1f7f217f227f237f247f257f267f277f2a7f2b7f2c7f2d7f2f7f307f317f327f337f355e7a757f5ddb753e9095738e739173ae73a2739f73cf73c273d173b773b373c073c973c873e573d9987c740a73e973e773de73ba73f2740f742a745b7426742574287430742e742c,
 .run 0x942f 15,
 .run 0x943f 44,
 .lit 5 0x946c946d946e946f003f,
 .run 0x9470 21,
 .lit 126 0x94919496949894c794cf94d394d494da94e694fb951c9520741b741a7441745c7457745574597477746d747e749c748e748074817487748b749e74a874a9749074a774d274ba97ea97eb97ec674c6753675e6748676967a56787676a6773679867a7677567a8679e67ad678b6777677c67f0680967d8680a67e967b0680c67d967b567da67b367dd680067c367b867e2680e67c167fd6832683368606861684e6862684468646883681d68556866684168676840683e684a6849682968b5688f687468776893686b68c2696e68fc691f692068f995279533953d95439548954b9555955a9560956e95749575957795789579957a957b957c957d957e,
 .run 0x9580 43,
 .lit 1 0x003f,
 .run 0x95ab 33,
 .lit 94 0x692468f0690b6901695768e369106971693969606942695d6984696b698069986978693469cc6987698869ce6989696669636979699b69a769bb69ab69ad69d469b169c169ca69df699569e0698d69ff6a2f69ed6a176a186a6569f26a446a3e6aa06a506a5b6a356a8e6a796a3d6a286a586a7c6a916a906aa96a976aab733773526b816b826b876b846b926b936b8d6b9a6b9b6ba16baa8f6b8f6d8f718f728f738f758f768f788f778f798f7a8f7c8f7e8f818f828f848f878f8b,
 .run 0x95cc 28,
 .lit 53 0x95ec95ff960796139618961b961e96209623962496259626962796289629962b962c962d962f9630963796389639963a963e96419643964a964e964f96519652965396569657003f96589659965a965c965d965e9660966396659666966b966d966e966f967096719673,
 .run 0x9678 13,
 .lit 128 0x96879689968a8f8d8f8e8f8f8f988f9a8ece620b6217621b621f6222622162256224622c81e774ef74f474ff750f75117513653465ee65ef65f0660a66196772660366156600708566f7661d66346631663666358006665f66546641664f66566661665766776684668c66a7669d66be66db66dc66e666e98d328d338d368d3b8d3d8d408d458d468d488d498d478d4d8d558d5989c789ca89cb89cc89ce89cf89d089d1726e729f725d7266726f727e727f7284728b728d728f72926308633263b0968c968e96919692969396959696969a969b969d969e969f96a096a196a296a396a496a596a696a896a996aa96ab96ac96ad96ae96af96b196b296b496b5,
 .lit 128 0x96b796b896ba96bb96bf96c296c396c896ca96cb96d096d196d396d496d696d796d896d996da96db96dc96dd96de96df96e196e296e396e496e596e696e796eb003f96ec96ed96ee96f096f196f296f496f596f896fa96fb96fc96fd96ff970297039705970a970b970c97109711971297149715971797189719971a971b971d971f9720643f64d880046bea6bf36bfd6bf56bf96c056c076c066c0d6c156c186c196c1a6c216c296c246c2a6c3265356555656b724d72527256723086625216809f809c809380bc670a80bd80b180ab80ad80b480b780e780e880e980ea80db80c280c480d980cd80d7671080dd80eb80f180f480ed810d810e80f280fc6715,
 .lit 55 0x81128c5a8136811e812c811881328148814c815381748159815a817181608169817c817d816d8167584d5ab58188818281916ed581a381aa81cc672681ca81bb972197229723972497259726972797289729972b972c972e972f973197339734973597369737973a973b973c973d,
 .run 0x973f 19,
 .lit 128 0x9754975597579758975a975c975d975f97639764976697679768976a976b976c976d976e976f97709771003f97729775977797789779977a977b977d977e977f978097819782978397849786978797889789978a978c978e978f979097939795979697979799979a979b979c979d81c181a66b246b376b396b436b466b5998d198d298d398d598d998da6bb35f406bc289f365909f51659365bc65c665c465c365cc65ce65d265d67080709c7096709d70bb70c070b770ab70b170e870ca711071137116712f71317173715c716871457172714a7178717a719871b371b571a871a071e071d471e771f9721d7228706c7118716671b9623e623d624362486249,
 .lit 37 0x793b794079467949795b795c7953795a796279577960796f7967797a7985798a799a79a779b35fd15fd0979e979f97a197a297a497a597a697a797a897a997aa97ac97ae97b097b197b3,
 .run 0x97b5 47,
 .lit 10 0x003f97e497e597e897ee97ef97f097f197f297f4,
 .run 0x97f7 24,
 .lit 94 0x603c605d605a606760416059606360ab6106610d615d61a9619d61cb61d162068080807f6c936cf66dfc77f677f87800780978177818781165ab782d781c781d7839783a783b781f783c7825782c78237829784e786d78567857782678507847784c786a789b7893789a7887789c78a178a378b278b978a578d478d978c978ec78f2790578f479137924791e79349f9b9ef99efb9efc76f17704770d76f977077708771a77227719772d7726773577387750775177477743775a7768,
 .run 0x980f 63,
 .lit 1 0x003f,
 .run 0x984e 33,
 .lit 106 0x77627765777f778d777d7780778c7791779f77a077b077b577bd753a7540754e754b7548755b7572757975837f587f617f5f8a487f687f747f717f797f817f7e76cd76e58832948594869487948b948a948c948d948f9490949494979495949a949b949c94a394a494ab94aa94ad94ac94af94b094b294b494b694b794b894b994ba94bc94bd94bf94c494c894c994ca94cb94cc94cd94ce94d094d194d294d594d694d794d994d894db94de94df94e094e294e494e594e794e894ea986f98709871987298739874988b988e98929895989998a3,
 .run 0x98a8 38,
 .lit 16 0x98cf98d098d498d698d798db98dc98dd98e098e198e298e398e4003f98e598e6,
 .run 0x98e9 31,
 .lit 101 0x94e994eb94ee94ef94f394f494f594f794f994fc94fd94ff95039502950695079509950a950d950e950f951295139514951595169518951b951d951e951f9522952a952b9529952c953195329534953695379538953c953e953f954295359544954595469549954c954e954f9552955395549556955795589559955b955e955f955d95619562956495659566956795689569956a956b956c956f957195729573953a77e777ec96c979d579ed79e379eb7a065d477a037a027a1e7a1499089909990a990b990c990e990f,
 .run 0x9911 29,
 .run 0x992f 27,
 .lit 11 0x003f994a994b994c994d994e994f9950995199529953,
 .run 0x9956 13,
 .lit 119 0x99649966997399789979997b997e9982998399897a397a377a519ecf99a57a707688768e7693769976a474de74e0752c9e209e229e289e299e2a9e2b9e2c9e329e319e369e389e379e399e3a9e3e9e419e429e449e469e479e489e499e4b9e4c9e4e9e519e559e579e5a9e5b9e5c9e5e9e639e669e679e689e699e6a9e6b9e6c9e719e6d9e7375927594759675a0759d75ac75a375b375b475b875c475b175b075c375c275d675cd75e375e875e675e475eb75e7760375f175fc75ff761076007605760c7617760a7625761876157619998c998e999a999b999c999d999e999f99a099a199a299a399a499a699a7,
 .run 0x99a9 48,
 .lit 1 0x003f,
 .run 0x99d9 33,
 .lit 94 0x761b763c762276207640762d7630763f76357643763e7633764d765e7654765c7656766b766f7fca7ae67a787a797a807a867a887a957aa67aa07aac7aa87aad7ab3886488698872887d887f888288a288c688b788bc88c988e288ce88e388e588f1891a88fc88e888fe88f0892189198913891b890a8934892b893689418966897b758b80e576b276b477dc801280148016801c80208022802580268027802980288031800b803580438046804d8052806980718983987898809883,
 .run 0x99fa 63,
 .lit 1 0x003f,
 .run 0x9a39 33,
 .lit 94 0x9889988c988d988f9894989a989b989e989f98a198a298a598a6864d8654866c866e867f867a867c867b86a8868d868b86ac869d86a786a386aa869386a986b686c486b586ce86b086ba86b186af86c986cf86b486e986f186f286ed86f386d0871386de86f486df86d886d18703870786f88708870a870d87098723873b871e8725872e871a873e87488734873187298737873f87828722877d877e877b87608770874c876e878b87538763877c876487598765879387af87a887d2,
 .run 0x9a5a 18,
 .lit 128 0x9a729a839a899a8d9a8e9a949a959a999aa69aa99aaa9aab9aac9aad9aae9aaf9ab29ab39ab49ab59ab99abb9abd9abe9abf9ac39ac49ac69ac79ac89ac99aca9acd9ace9acf9ad09ad29ad49ad59ad69ad79ad99ada9adb9adc003f9add9ade9ae09ae29ae39ae49ae59ae79ae89ae99aea9aec9aee9af09af19af29af39af49af59af69af79af89afa9afc9afd9afe9aff9b009b019b029b049b059b0687c68788878587ad8797878387ab87e587ac87b587b387cb87d387bd87d187c087ca87db87ea87e087ee8816881387fe880a881b88218839883c7f367f427f447f4582107afa7afd7b087b037b047b157b0a7b2b7b0f7b477b387b2a7b197b2e7b31,
 .lit 109 0x7b207b257b247b337b3e7b1e7b587b5a7b457b757b4c7b5d7b607b6e7b7b7b627b727b717b907ba67ba77bb87bac7b9d7ba87b857baa7b9c7ba27bab7bb47bd17bc17bcc7bdd7bda7be57be67bea7c0c7bfe7bfc7c0f7c167c0b9b079b099b0a9b0b9b0c9b0d9b0e9b109b119b129b149b159b169b179b189b199b1a9b1b9b1c9b1d9b1e9b209b219b229b249b259b269b279b289b299b2a9b2b9b2c9b2d9b2e9b309b319b339b349b359b369b379b389b399b3a9b3d9b3e9b3f9b409b469b4a9b4b9b4c9b4e9b509b529b539b559b569b579b589b599b5a003f,
 .run 0x9b5b 33,
 .lit 94 0x7c1f7c2a7c267c387c417c4081fe82018202820481ec8844822182228223822d822f8228822b8238823b82338234823e82448249824b824f825a825f8268887e8885888888d888df895e7f9d7f9f7fa77faf7fb07fb27c7c65497c917c9d7c9c7c9e7ca27cb27cbc7cbd7cc17cc77ccc7ccd7cc87cc57cd77ce8826e66a87fbf7fce7fd57fe57fe17fe67fe97fee7ff37cf87d777da67dae7e477e9b9eb89eb48d738d848d948d918db18d678d6d8c478c49914a9150914e914f9164,
 .run 0x9b7c 63,
 .lit 1 0x003f,
 .run 0x9bbb 33,
 .lit 94 0x9162916191709169916f917d917e917291749179918c91859190918d919191a291a391aa91ad91ae91af91b591b491ba8c559e7e8db88deb8e058e598e698db58dbf8dbc8dba8dc48dd68dd78dda8dde8dce8dcf8ddb8dc68dec8df78df88de38df98dfb8de48e098dfd8e148e1d8e1f8e2c8e2e8e238e2f8e3a8e408e398e358e3d8e318e498e418e428e518e528e4a8e708e768e7c8e6f8e748e858e8f8e948e908e9c8e9e8c788c828c8a8c858c988c94659b89d689de89da89dc,
 .run 0x9bdc 63,
 .lit 1 0x003f,
 .run 0x9c1b 33,
 .lit 94 0x89e589eb89ef8a3e8b26975396e996f396ef970697019708970f970e972a972d9730973e9f809f839f859f869f879f889f899f8a9f8c9efe9f0b9f0d96b996bc96bd96ce96d277bf96e0928e92ae92c8933e936a93ca938f943e946b9c7f9c829c859c869c879c887a239c8b9c8e9c909c919c929c949c959c9a9c9b9c9e9c9f9ca09ca19ca29ca39ca59ca69ca79ca89ca99cab9cad9cae9cb09cb19cb29cb39cb49cb59cb69cb79cba9cbb9cbc9cbd9cc49cc59cc69cc79cca9ccb,
 .run 0x9c3c 63,
 .lit 128 0x003f9c7b9c7d9c7e9c809c839c849c899c8a9c8c9c8f9c939c969c979c989c999c9d9caa9cac9caf9cb99cbe9cbf9cc09cc19cc29cc89cc99cd19cd29cda9cdb9ce09ce19ccc9ccd9cce9ccf9cd09cd39cd49cd59cd79cd89cd99cdc9cdd9cdf9ce2977c978597919792979497af97ab97a397b297b49ab19ab09ab79e589ab69aba9abc9ac19ac09ac59ac29acb9acc9ad19b459b439b479b499b489b4d9b5198e8990d992e995599549adf9ae19ae69aef9aeb9afb9aed9af99b089b0f9b139b1f9b239ebd9ebe7e3b9e829e879e889e8b9e9293d69e9d9e9f9edb9edc9edd9ee09edf9ee29ee99ee79ee59eea9eef9f229f2c9f2f9f399f379f3d9f3e9f44,
 .run 0x9ce3 63,
 .lit 1 0x003f,
 .run 0x9d22 33,
 .run 0xe234 94,
 .run 0x9d43 63,
 .lit 1 0x003f,
 .run 0x9d82 33,
 .run 0xe292 94,
 .run 0x9da3 63,
 .lit 1 0x003f,
 .run 0x9de2 33,
 .run 0xe2f0 94,
 .run 0x9e03 28,
 .lit 69 0x9e249e279e2e9e309e349e3b9e3c9e409e4d9e509e529e539e549e569e599e5d9e5f9e609e619e629e659e6e9e6f9e729e749e759e769e779e789e799e7a9e7b9e7c9e7d9e80003f9e819e839e849e859e869e899e8a9e8c9e8d9e8e9e8f9e909e919e949e959e969e979e989e999e9a9e9b9e9c9e9e9ea09ea19ea29ea39ea49ea59ea79ea89ea99eaa,
 .run 0xe34e 94,
 .lit 97 0x9eab9eac9ead9eae9eaf9eb09eb19eb29eb39eb59eb69eb79eb99eba9ebc9ebf9ec09ec19ec29ec39ec59ec69ec79ec89eca9ecb9ecc9ed09ed29ed39ed59ed69ed79ed99eda9ede9ee19ee39ee49ee69ee89eeb9eec9eed9eee9ef09ef19ef29ef39ef49ef59ef69ef79ef89efa9efd9eff9f009f019f029f039f049f05003f9f069f079f089f099f0a9f0c9f0f9f119f129f149f159f169f189f1a9f1b9f1c9f1d9f1e9f1f9f219f239f249f259f269f279f289f299f2a9f2b9f2d9f2e9f309f31,
 .run 0xe3ac 94,
 .lit 24 0x9f329f339f349f359f369f389f3a9f3c9f3f9f409f419f429f439f459f469f479f489f499f4a9f4b9f4c9f4d9f4e9f4f,
 .run 0x9f52 39,
 .lit 9 0x003f9f799f7a9f7b9f7c9f7d9f7e9f819f82,
 .run 0x9f8d 12,
 .lit 13 0x9f9c9f9d9f9e9fa19fa29fa39fa49fa5f92cf979f995f9e7f9f1,
 .run 0xe40a 94,
 .lit 16 0xfa0cfa0dfa0efa0ffa11fa13fa14fa18fa1ffa20fa21fa23fa24fa27fa28fa29,
 .run 0xe815 47,
 .lit 1 0x003f,
 .run 0xe844 33,
 .run 0xe468 94,
 .lit 14 0x000b0001785c3365785c6564785c3365785c6664785c3365785c3065]

/-- The first table as one number. -/
def uni2gbPacked : Nat := pack uni2gbPieces

/-- The second table as one number. -/
def gb2uniPacked : Nat := pack gb2uniPieces

/-- `mb_uni2gb_table`: the GBK code of U+4E00 and of the code points behind it. -/
def mbUni2gbTable (i : Fin 20902) : UInt16 := UInt16.ofNat (entry uni2gbPacked 20902 i)

/-- `mb_gb2uni_table`: the code point of a GBK code, 191 of them for each first byte. -/
def mbGb2uniTable (i : Fin 24080) : UInt16 := UInt16.ofNat (entry gb2uniPacked 24080 i)

theorem toNat_mbUni2gbTable (i : Fin 20902) :
    (mbUni2gbTable i).toNat = entry uni2gbPacked 20902 i :=
  UInt16.toNat_ofNat_of_lt' (entry_lt ..)

theorem toNat_mbGb2uniTable (i : Fin 24080) :
    (mbGb2uniTable i).toNat = entry gb2uniPacked 24080 i :=
  UInt16.toNat_ofNat_of_lt' (entry_lt ..)

/-! ## One pass over each table -/

/-- Whether the GBK code at `i` has bytes that `gbk_to_unicode` looks up, and stands for the code
point that `i` stands for. -/
def takesBack (i : Nat) : Bool :=
  Nat.ble 20902 i ||
    (Nat.ble 0x81 (entry uni2gbPacked 20902 i / 256) &&
      Nat.ble (entry uni2gbPacked 20902 i / 256) 0xfe &&
      Nat.ble 0x40 (entry uni2gbPacked 20902 i % 256) &&
      Nat.ble (entry uni2gbPacked 20902 i % 256) 0xfe &&
      Nat.beq (entry gb2uniPacked 24080 ((entry uni2gbPacked 20902 i / 256 - 0x81) * 0xbf +
        (entry uni2gbPacked 20902 i % 256 - 0x40))) (0x4e00 + i))

/-- Whether the entry at `i` is `?` if the second byte of its code is 0x7F, and no ASCII if not. -/
def gapsRight (i : Nat) : Bool :=
  Nat.ble 24066 i ||
    bif Nat.beq (i % 0xbf) 0x3f then Nat.beq (entry gb2uniPacked 24080 i) 0x3f
    else Nat.ble 0x80 (entry gb2uniPacked 24080 i)

theorem takesBack_all : allFrom takesBack 15 0 = true := by decide +kernel

theorem gapsRight_all : allFrom gapsRight 15 0 = true := by decide +kernel

/-- **The tables are inverse** on U+4E00..U+9FA5: looking up the two bytes of the GBK code of a
code point gives the code point. The first byte is no ASCII. -/
theorem gbkToUnicode_mbUni2gb (i : Fin 20902) {ch cl : UInt8}
    (hch : ch.toNat = (mbUni2gbTable i).toNat / 256)
    (hcl : cl.toNat = (mbUni2gbTable i).toNat % 256) :
    ¬ ch < 0x80 ∧ (gbkToUnicode mbGb2uniTable ch cl).toNat = 0x4e00 + i := by
  have hrow := allFrom_sound takesBack_all i (Nat.zero_le _) (by omega)
  rw [toNat_mbUni2gbTable] at hch hcl
  simp only [takesBack, ← hch, ← hcl, Bool.or_eq_true, Bool.and_eq_true, Nat.ble_eq,
    Nat.beq_eq, Nat.not_le.mpr i.isLt, false_or] at hrow
  obtain ⟨⟨⟨⟨hlow, hhigh⟩, hlow2⟩, hhigh2⟩, hback⟩ := hrow
  -- the subtractions of `gbk_to_unicode` do not wrap
  have h1 : (ch - 0x81).toNat = ch.toNat - 0x81 :=
    UInt8.toNat_sub_of_le _ _ (UInt8.le_iff_toNat_le.mpr hlow)
  have h2 : (cl - 0x40).toNat = cl.toNat - 0x40 :=
    UInt8.toNat_sub_of_le _ _ (UInt8.le_iff_toNat_le.mpr hlow2)
  have hin : ch - 0x81 ≤ 0x7d ∧ cl - 0x40 ≤ 0xbe := by
    rw [UInt8.le_iff_toNat_le, UInt8.le_iff_toNat_le, h1, h2]
    exact ⟨Nat.sub_le_of_le_add hhigh, Nat.sub_le_of_le_add hhigh2⟩
  refine ⟨?_, ?_⟩
  · rw [UInt8.lt_iff_toNat_lt]
    exact Nat.not_lt.mpr (Nat.le_trans (by decide) hlow)
  · rw [gbkToUnicode, dif_pos hin, toNat_mbGb2uniTable]
    rw [← h1, ← h2] at hback
    exact hback

/-- What `gbk_to_unicode` can read of the table: `?` for the second byte 0x7F, and no ASCII for
any other. -/
theorem mbGb2uniTable_gaps (i : Fin 24080) (hi : i.val ≤ 0x7d * 0xbf + 0xbe) :
    if i.val % 0xbf = 0x3f then mbGb2uniTable i = 0x3f else 0x80 ≤ mbGb2uniTable i := by
  have hrow := allFrom_sound gapsRight_all i (Nat.zero_le _) (by omega)
  rw [gapsRight, ← toNat_mbGb2uniTable, Bool.or_eq_true, Nat.ble_eq] at hrow
  replace hrow := hrow.resolve_left (by omega)
  split_ifs with hcol
  · rw [hcol, Nat.beq_refl, cond_true] at hrow
    have hval : (mbGb2uniTable i).toNat = (0x3f : UInt16).toNat := Nat.eq_of_beq_eq_true hrow
    exact UInt16.toNat_inj.mp hval
  · have hbeq : Nat.beq (i.val % 0xbf) 0x3f = false :=
      Bool.eq_false_iff.mpr fun h => hcol (Nat.eq_of_beq_eq_true h)
    rw [hbeq, cond_false] at hrow
    exact UInt16.le_iff_toNat_le.mpr (Nat.le_of_ble_eq_true hrow)

end ConnectApp.Encode
