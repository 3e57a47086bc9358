/-!
Character sets of eight-bit documents. Each agrees with ASCII in its lower half; a table gives
the upper half in groups of four hexadecimal digits, with `fffd` where a set has no character.
-/
namespace FeatureSpec.Xml

/-- Names of eight-bit sets, in normal form, and the upper halves of the sets. -/
def eightBitSets : List (List String × String) :=
  [(["arabic", "asmo_708", "csisolatinarabic", "ecma_114", "iso8859_6", "iso_8859_6",
    "iso_8859_6_1987", "iso_ir_127"],
     "0080008100820083008400850086008700880089008a008b008c008d008e008f" ++
     "0090009100920093009400950096009700980099009a009b009c009d009e009f" ++
     "00a0fffdfffdfffd00a4fffdfffdfffdfffdfffdfffdfffd060c00adfffdfffd" ++
     "fffdfffdfffdfffdfffdfffdfffdfffdfffdfffdfffd061bfffdfffdfffd061f" ++
     "fffd062106220623062406250626062706280629062a062b062c062d062e062f" ++
     "0630063106320633063406350636063706380639063afffdfffdfffdfffdfffd" ++
     "0640064106420643064406450646064706480649064a064b064c064d064e064f" ++
     "065006510652fffdfffdfffdfffdfffdfffdfffdfffdfffdfffdfffdfffdfffd"),
   (["charmap", "cp819", "csisolatin1", "ibm819", "iso8859", "iso8859_1", "iso_8859_1",
    "iso_8859_1_1987", "iso_ir_100", "l1", "latin", "latin1", "latin_1", "raw_unicode_escape",
    "unicode_escape"],
     "0080008100820083008400850086008700880089008a008b008c008d008e008f" ++
     "0090009100920093009400950096009700980099009a009b009c009d009e009f" ++
     "00a000a100a200a300a400a500a600a700a800a900aa00ab00ac00ad00ae00af" ++
     "00b000b100b200b300b400b500b600b700b800b900ba00bb00bc00bd00be00bf" ++
     "00c000c100c200c300c400c500c600c700c800c900ca00cb00cc00cd00ce00cf" ++
     "00d000d100d200d300d400d500d600d700d800d900da00db00dc00dd00de00df" ++
     "00e000e100e200e300e400e500e600e700e800e900ea00eb00ec00ed00ee00ef" ++
     "00f000f100f200f300f400f500f600f700f800f900fa00fb00fc00fd00fe00ff"),
   (["cp1006"],
     "0080008100820083008400850086008700880089008a008b008c008d008e008f" ++
     "0090009100920093009400950096009700980099009a009b009c009d009e009f" ++
     "00a006f006f106f206f306f406f506f606f706f806f9060c061b00ad061ffe81" ++
     "fe8dfe8efe8efe8ffe91fb56fb58fe93fe95fe97fb66fb68fe99fe9bfe9dfe9f" ++
     "fb7afb7cfea1fea3fea5fea7fea9fb84feabfeadfb8cfeaffb8afeb1feb3feb5" ++
     "feb7feb9febbfebdfebffec1fec5fec9fecafecbfeccfecdfecefecffed0fed1" ++
     "fed3fed5fed7fed9fedbfb92fb94feddfedffee0fee1fee3fb9efee5fee7fe85" ++
     "feedfba6fba8fba9fbaafe80fe89fe8afe8bfef1fef2fef3fbb0fbaefe7cfe7d"),
   (["cp1051", "hp_roman8", "ibm1051", "r8", "roman8"],
     "0080008100820083008400850086008700880089008a008b008c008d008e008f" ++
     "0090009100920093009400950096009700980099009a009b009c009d009e009f" ++
     "00a000c000c200c800ca00cb00ce00cf00b402cb02c600a802dc00d900db20a4" ++
     "00af00dd00fd00b000c700e700d100f100a100bf00a400a300a500a7019200a2" ++
     "00e200ea00f400fb00e100e900f300fa00e000e800f200f900e400eb00f600fc" ++
     "00c500ee00d800c600e500ed00f800e600c400ec00d600dc00c900ef00df00d4" ++
     "00c100c300e300d000f000cd00cc00d300d200d500f50160016100da017800ff" ++
     "00de00fe00b700b500b600be201400bc00bd00aa00ba00ab25a000bb00b1fffd"),
   (["cp1125", "cp866u", "ibm1125", "ruscii"],
     "0410041104120413041404150416041704180419041a041b041c041d041e041f" ++
     "0420042104220423042404250426042704280429042a042b042c042d042e042f" ++
     "0430043104320433043404350436043704380439043a043b043c043d043e043f" ++
     "259125922593250225242561256225562555256325512557255d255c255b2510" ++
     "25142534252c251c2500253c255e255f255a25542569256625602550256c2567" ++
     "2568256425652559255825522553256b256a2518250c25882584258c25902580" ++
     "0440044104420443044404450446044704480449044a044b044c044d044e044f" ++
     "040104510490049104040454040604560407045700b7221a211600a425a000a0"),
   (["cp1250", "windows_1250"],
     "20acfffd201afffd201e202620202021fffd203001602039015a0164017d0179" ++
     "fffd20182019201c201d202220132014fffd21220161203a015b0165017e017a" ++
     "00a002c702d8014100a4010400a600a700a800a9015e00ab00ac00ad00ae017b" ++
     "00b000b102db014200b400b500b600b700b80105015f00bb013d02dd013e017c" ++
     "015400c100c2010200c40139010600c7010c00c9011800cb011a00cd00ce010e" ++
     "01100143014700d300d4015000d600d70158016e00da017000dc00dd016200df" ++
     "015500e100e2010300e4013a010700e7010d00e9011900eb011b00ed00ee010f" ++
     "01110144014800f300f4015100f600f70159016f00fa017100fc00fd016302d9"),
   (["cp1251", "windows_1251"],
     "04020403201a0453201e20262020202120ac203004092039040a040c040b040f" ++
     "045220182019201c201d202220132014fffd21220459203a045a045c045b045f" ++
     "00a0040e045e040800a4049000a600a7040100a9040400ab00ac00ad00ae0407" ++
     "00b000b104060456049100b500b600b704512116045400bb0458040504550457" ++
     "0410041104120413041404150416041704180419041a041b041c041d041e041f" ++
     "0420042104220423042404250426042704280429042a042b042c042d042e042f" ++
     "0430043104320433043404350436043704380439043a043b043c043d043e043f" ++
     "0440044104420443044404450446044704480449044a044b044c044d044e044f"),
   (["cp1252", "windows_1252"],
     "20acfffd201a0192201e20262020202102c62030016020390152fffd017dfffd" ++
     "fffd20182019201c201d20222013201402dc21220161203a0153fffd017e0178" ++
     "00a000a100a200a300a400a500a600a700a800a900aa00ab00ac00ad00ae00af" ++
     "00b000b100b200b300b400b500b600b700b800b900ba00bb00bc00bd00be00bf" ++
     "00c000c100c200c300c400c500c600c700c800c900ca00cb00cc00cd00ce00cf" ++
     "00d000d100d200d300d400d500d600d700d800d900da00db00dc00dd00de00df" ++
     "00e000e100e200e300e400e500e600e700e800e900ea00eb00ec00ed00ee00ef" ++
     "00f000f100f200f300f400f500f600f700f800f900fa00fb00fc00fd00fe00ff"),
   (["cp1253", "windows_1253"],
     "20acfffd201a0192201e202620202021fffd2030fffd2039fffdfffdfffdfffd" ++
     "fffd20182019201c201d202220132014fffd2122fffd203afffdfffdfffdfffd" ++
     "00a00385038600a300a400a500a600a700a800a9fffd00ab00ac00ad00ae2015" ++
     "00b000b100b200b3038400b500b600b703880389038a00bb038c00bd038e038f" ++
     "0390039103920393039403950396039703980399039a039b039c039d039e039f" ++
     "03a003a1fffd03a303a403a503a603a703a803a903aa03ab03ac03ad03ae03af" ++
     "03b003b103b203b303b403b503b603b703b803b903ba03bb03bc03bd03be03bf" ++
     "03c003c103c203c303c403c503c603c703c803c903ca03cb03cc03cd03cefffd"),
   (["cp1254", "windows_1254"],
     "20acfffd201a0192201e20262020202102c62030016020390152fffdfffdfffd" ++
     "fffd20182019201c201d20222013201402dc21220161203a0153fffdfffd0178" ++
     "00a000a100a200a300a400a500a600a700a800a900aa00ab00ac00ad00ae00af" ++
     "00b000b100b200b300b400b500b600b700b800b900ba00bb00bc00bd00be00bf" ++
     "00c000c100c200c300c400c500c600c700c800c900ca00cb00cc00cd00ce00cf" ++
     "011e00d100d200d300d400d500d600d700d800d900da00db00dc0130015e00df" ++
     "00e000e100e200e300e400e500e600e700e800e900ea00eb00ec00ed00ee00ef" ++
     "011f00f100f200f300f400f500f600f700f800f900fa00fb00fc0131015f00ff"),
   (["cp1255", "windows_1255"],
     "20acfffd201a0192201e20262020202102c62030fffd2039fffdfffdfffdfffd" ++
     "fffd20182019201c201d20222013201402dc2122fffd203afffdfffdfffdfffd" ++
     "00a000a100a200a320aa00a500a600a700a800a900d700ab00ac00ad00ae00af" ++
     "00b000b100b200b300b400b500b600b700b800b900f700bb00bc00bd00be00bf" ++
     "05b005b105b205b305b405b505b605b705b805b9fffd05bb05bc05bd05be05bf" ++
     "05c005c105c205c305f005f105f205f305f4fffdfffdfffdfffdfffdfffdfffd" ++
     "05d005d105d205d305d405d505d605d705d805d905da05db05dc05dd05de05df" ++
     "05e005e105e205e305e405e505e605e705e805e905eafffdfffd200e200ffffd"),
   (["cp1256", "windows_1256"],
     "20ac067e201a0192201e20262020202102c62030067920390152068606980688" ++
     "06af20182019201c201d20222013201406a921220691203a0153200c200d06ba" ++
     "00a0060c00a200a300a400a500a600a700a800a906be00ab00ac00ad00ae00af" ++
     "00b000b100b200b300b400b500b600b700b800b9061b00bb00bc00bd00be061f" ++
     "06c1062106220623062406250626062706280629062a062b062c062d062e062f" ++
     "063006310632063306340635063600d7063706380639063a0640064106420643" ++
     "00e0064400e2064506460647064800e700e800e900ea00eb0649064a00ee00ef" ++
     "064b064c064d064e00f4064f065000f7065100f9065200fb00fc200e200f06d2"),
   (["cp1257", "windows_1257"],
     "20acfffd201afffd201e202620202021fffd2030fffd2039fffd00a802c700b8" ++
     "fffd20182019201c201d202220132014fffd2122fffd203afffd00af02dbfffd" ++
     "00a0fffd00a200a300a4fffd00a600a700d800a9015600ab00ac00ad00ae00c6" ++
     "00b000b100b200b300b400b500b600b700f800b9015700bb00bc00bd00be00e6" ++
     "0104012e0100010600c400c501180112010c00c90179011601220136012a013b" ++
     "01600143014500d3014c00d500d600d701720141015a016a00dc017b017d00df" ++
     "0105012f0101010700e400e501190113010d00e9017a011701230137012b013c" ++
     "01610144014600f3014d00f500f600f701730142015b016b00fc017c017e02d9"),
   (["cp1258", "windows_1258"],
     "20acfffd201a0192201e20262020202102c62030fffd20390152fffdfffdfffd" ++
     "fffd20182019201c201d20222013201402dc2122fffd203a0153fffdfffd0178" ++
     "00a000a100a200a300a400a500a600a700a800a900aa00ab00ac00ad00ae00af" ++
     "00b000b100b200b300b400b500b600b700b800b900ba00bb00bc00bd00be00bf" ++
     "00c000c100c2010200c400c500c600c700c800c900ca00cb030000cd00ce00cf" ++
     "011000d1030900d300d401a000d600d700d800d900da00db00dc01af030300df" ++
     "00e000e100e2010300e400e500e600e700e800e900ea00eb030100ed00ee00ef" ++
     "011100f1032300f300f401a100f600f700f800f900fa00fb00fc01b020ab00ff"),
   (["cp154", "csptcp154", "cyrillic_asian", "pt154", "ptcp154"],
     "0496049204ee0493201e202604b604ae04b204af04a004e204a2049a04ba04b8" ++
     "049720182019201c201d20222013201404b304b704a104e304a3049b04bb04b9" ++
     "00a0040e045e040804e8049804b000a7040100a904d800ab00ac04ef00ae049c" ++
     "00b004b104060456049904e900b600b70451211604d900bb045804aa04ab049d" ++
     "0410041104120413041404150416041704180419041a041b041c041d041e041f" ++
     "0420042104220423042404250426042704280429042a042b042c042d042e042f" ++
     "0430043104320433043404350436043704380439043a043b043c043d043e043f" ++
     "0440044104420443044404450446044704480449044a044b044c044d044e044f"),
   (["cp437", "cspc8codepage437", "ibm437"],
     "00c700fc00e900e200e400e000e500e700ea00eb00e800ef00ee00ec00c400c5" ++
     "00c900e600c600f400f600f200fb00f900ff00d600dc00a200a300a520a70192" ++
     "00e100ed00f300fa00f100d100aa00ba00bf231000ac00bd00bc00a100ab00bb" ++
     "259125922593250225242561256225562555256325512557255d255c255b2510" ++
     "25142534252c251c2500253c255e255f255a25542569256625602550256c2567" ++
     "2568256425652559255825522553256b256a2518250c25882584258c25902580" ++
     "03b100df039303c003a303c300b503c403a6039803a903b4221e03c603b52229" ++
     "226100b1226522642320232100f7224800b0221900b7221a207f00b225a000a0"),
   (["cp720"],
     "0080008100e900e2008400e0008600e700ea00eb00e800ef00ee008d008e008f" ++
     "00900651065200f400a4064000fb00f9062106220623062400a3062506260627" ++
     "06280629062a062b062c062d062e062f06300631063206330634063500ab00bb" ++
     "259125922593250225242561256225562555256325512557255d255c255b2510" ++
     "25142534252c251c2500253c255e255f255a25542569256625602550256c2567" ++
     "2568256425652559255825522553256b256a2518250c25882584258c25902580" ++
     "0636063706380639063a064100b506420643064406450646064706480649064a" ++
     "2261064b064c064d064e064f0650224800b0221900b7221a207f00b225a000a0"),
   (["cp737"],
     "039103920393039403950396039703980399039a039b039c039d039e039f03a0" ++
     "03a103a303a403a503a603a703a803a903b103b203b303b403b503b603b703b8" ++
     "03b903ba03bb03bc03bd03be03bf03c003c103c303c203c403c503c603c703c8" ++
     "259125922593250225242561256225562555256325512557255d255c255b2510" ++
     "25142534252c251c2500253c255e255f255a25542569256625602550256c2567" ++
     "2568256425652559255825522553256b256a2518250c25882584258c25902580" ++
     "03c903ac03ad03ae03ca03af03cc03cd03cb03ce038603880389038a038c038e" ++
     "038f00b12265226403aa03ab00f7224800b0221900b7221a207f00b225a000a0"),
   (["cp775", "cspc775baltic", "ibm775"],
     "010600fc00e9010100e4012300e501070142011301560157012b017900c400c5" ++
     "00c900e600c6014d00f6012200a2015a015b00d600dc00f800a300d800d700a4" ++
     "0100012a00f3017b017c017a201d00a600a900ae00ac00bd00bc014100ab00bb" ++
     "259125922593250225240104010c01180116256325512557255d012e01602510" ++
     "25142534252c251c2500253c0172016a255a25542569256625602550256c017d" ++
     "0105010d01190117012f01610173016b017e2518250c25882584258c25902580" ++
     "00d300df014c014300f500d500b5014401360137013b013c0146011201452019" ++
     "00ad00b1201c00be00b600a700f7201e00b0221900b700b900b300b225a000a0"),
   (["cp850", "cspc850multilingual", "ibm850"],
     "00c700fc00e900e200e400e000e500e700ea00eb00e800ef00ee00ec00c400c5" ++
     "00c900e600c600f400f600f200fb00f900ff00d600dc00f800a300d800d70192" ++
     "00e100ed00f300fa00f100d100aa00ba00bf00ae00ac00bd00bc00a100ab00bb" ++
     "2591259225932502252400c100c200c000a9256325512557255d00a200a52510" ++
     "25142534252c251c2500253c00e300c3255a25542569256625602550256c00a4" ++
     "00f000d000ca00cb00c8013100cd00ce00cf2518250c2588258400a600cc2580" ++
     "00d300df00d400d200f500d500b500fe00de00da00db00d900fd00dd00af00b4" ++
     "00ad00b1201700be00b600a700f700b800b000a800b700b900b300b225a000a0"),
   (["cp852", "cspcp852", "ibm852"],
     "00c700fc00e900e200e4016f010700e7014200eb0150015100ee017900c40106" ++
     "00c90139013a00f400f6013d013e015a015b00d600dc01640165014100d7010d" ++
     "00e100ed00f300fa01040105017d017e0118011900ac017a010c015f00ab00bb" ++
     "2591259225932502252400c100c2011a015e256325512557255d017b017c2510" ++
     "25142534252c251c2500253c01020103255a25542569256625602550256c00a4" ++
     "01110110010e00cb010f014700cd00ce011b2518250c258825840162016e2580" ++
     "00d300df00d401430144014801600161015400da0155017000fd00dd016300b4" ++
     "00ad02dd02db02c702d800a700f700b800b000a802d901710158015925a000a0"),
   (["cp855", "csibm855", "ibm855"],
     "0452040204530403045104010454040404550405045604060457040704580408" ++
     "04590409045a040a045b040b045c040c045e040e045f040f044e042e044a042a" ++
     "0430041004310411044604260434041404350415044404240433041300ab00bb" ++
     "259125922593250225240445042504380418256325512557255d043904192510" ++
     "25142534252c251c2500253c043a041a255a25542569256625602550256c00a4" ++
     "043b041b043c041c043d041d043e041e043f2518250c25882584041f044f2580" ++
     "042f044004200441042104420422044304230436041604320412044c042c2116" ++
     "00ad044b042b0437041704480428044d042d044904290447042700a725a000a0"),
   (["cp856"],
     "05d005d105d205d305d405d505d605d705d805d905da05db05dc05dd05de05df" ++
     "05e005e105e205e305e405e505e605e705e805e905eafffd00a3fffd00d7fffd" ++
     "fffdfffdfffdfffdfffdfffdfffdfffdfffd00ae00ac00bd00bcfffd00ab00bb" ++
     "25912592259325022524fffdfffdfffd00a9256325512557255d00a200a52510" ++
     "25142534252c251c2500253cfffdfffd255a25542569256625602550256c00a4" ++
     "fffdfffdfffdfffdfffdfffdfffdfffdfffd2518250c2588258400a6fffd2580" ++
     "fffdfffdfffdfffdfffdfffd00b5fffdfffdfffdfffdfffdfffdfffd00af00b4" ++
     "00ad00b1201700be00b600a700f700b800b000a800b700b900b300b225a000a0"),
   (["cp857", "csibm857", "ibm857"],
     "00c700fc00e900e200e400e000e500e700ea00eb00e800ef00ee013100c400c5" ++
     "00c900e600c600f400f600f200fb00f9013000d600dc00f800a300d8015e015f" ++
     "00e100ed00f300fa00f100d1011e011f00bf00ae00ac00bd00bc00a100ab00bb" ++
     "2591259225932502252400c100c200c000a9256325512557255d00a200a52510" ++
     "25142534252c251c2500253c00e300c3255a25542569256625602550256c00a4" ++
     "00ba00aa00ca00cb00c8fffd00cd00ce00cf2518250c2588258400a600cc2580" ++
     "00d300df00d400d200f500d500b5fffd00d700da00db00d900ec00ff00af00b4" ++
     "00ad00b1fffd00be00b600a700f700b800b000a800b700b900b300b225a000a0"),
   (["cp858", "csibm858", "ibm858"],
     "00c700fc00e900e200e400e000e500e700ea00eb00e800ef00ee00ec00c400c5" ++
     "00c900e600c600f400f600f200fb00f900ff00d600dc00f800a300d800d70192" ++
     "00e100ed00f300fa00f100d100aa00ba00bf00ae00ac00bd00bc00a100ab00bb" ++
     "2591259225932502252400c100c200c000a9256325512557255d00a200a52510" ++
     "25142534252c251c2500253c00e300c3255a25542569256625602550256c00a4" ++
     "00f000d000ca00cb00c820ac00cd00ce00cf2518250c2588258400a600cc2580" ++
     "00d300df00d400d200f500d500b500fe00de00da00db00d900fd00dd00af00b4" ++
     "00ad00b1201700be00b600a700f700b800b000a800b700b900b300b225a000a0"),
   (["cp860", "csibm860", "ibm860"],
     "00c700fc00e900e200e300e000c100e700ea00ca00e800cd00d400ec00c300c2" ++
     "00c900c000c800f400f500f200da00f900cc00d500dc00a200a300d920a700d3" ++
     "00e100ed00f300fa00f100d100aa00ba00bf00d200ac00bd00bc00a100ab00bb" ++
     "259125922593250225242561256225562555256325512557255d255c255b2510" ++
     "25142534252c251c2500253c255e255f255a25542569256625602550256c2567" ++
     "2568256425652559255825522553256b256a2518250c25882584258c25902580" ++
     "03b100df039303c003a303c300b503c403a6039803a903b4221e03c603b52229" ++
     "226100b1226522642320232100f7224800b0221900b7221a207f00b225a000a0"),
   (["cp861", "cp_is", "csibm861", "ibm861"],
     "00c700fc00e900e200e400e000e500e700ea00eb00e800d000f000de00c400c5" ++
     "00c900e600c600f400f600fe00fb00dd00fd00d600dc00f800a300d820a70192" ++
     "00e100ed00f300fa00c100cd00d300da00bf231000ac00bd00bc00a100ab00bb" ++
     "259125922593250225242561256225562555256325512557255d255c255b2510" ++
     "25142534252c251c2500253c255e255f255a25542569256625602550256c2567" ++
     "2568256425652559255825522553256b256a2518250c25882584258c25902580" ++
     "03b100df039303c003a303c300b503c403a6039803a903b4221e03c603b52229" ++
     "226100b1226522642320232100f7224800b0221900b7221a207f00b225a000a0"),
   (["cp862", "cspc862latinhebrew", "ibm862"],
     "05d005d105d205d305d405d505d605d705d805d905da05db05dc05dd05de05df" ++
     "05e005e105e205e305e405e505e605e705e805e905ea00a200a300a520a70192" ++
     "00e100ed00f300fa00f100d100aa00ba00bf231000ac00bd00bc00a100ab00bb" ++
     "259125922593250225242561256225562555256325512557255d255c255b2510" ++
     "25142534252c251c2500253c255e255f255a25542569256625602550256c2567" ++
     "2568256425652559255825522553256b256a2518250c25882584258c25902580" ++
     "03b100df039303c003a303c300b503c403a6039803a903b4221e03c603b52229" ++
     "226100b1226522642320232100f7224800b0221900b7221a207f00b225a000a0"),
   (["cp863", "csibm863", "ibm863"],
     "00c700fc00e900e200c200e000b600e700ea00eb00e800ef00ee201700c000a7" ++
     "00c900c800ca00f400cb00cf00fb00f900a400d400dc00a200a300d900db0192" ++
     "00a600b400f300fa00a800b800b300af00ce231000ac00bd00bc00be00ab00bb" ++
     "259125922593250225242561256225562555256325512557255d255c255b2510" ++
     "25142534252c251c2500253c255e255f255a25542569256625602550256c2567" ++
     "2568256425652559255825522553256b256a2518250c25882584258c25902580" ++
     "03b100df039303c003a303c300b503c403a6039803a903b4221e03c603b52229" ++
     "226100b1226522642320232100f7224800b0221900b7221a207f00b225a000a0"),
   (["cp865", "csibm865", "ibm865"],
     "00c700fc00e900e200e400e000e500e700ea00eb00e800ef00ee00ec00c400c5" ++
     "00c900e600c600f400f600f200fb00f900ff00d600dc00f800a300d820a70192" ++
     "00e100ed00f300fa00f100d100aa00ba00bf231000ac00bd00bc00a100ab00a4" ++
     "259125922593250225242561256225562555256325512557255d255c255b2510" ++
     "25142534252c251c2500253c255e255f255a25542569256625602550256c2567" ++
     "2568256425652559255825522553256b256a2518250c25882584258c25902580" ++
     "03b100df039303c003a303c300b503c403a6039803a903b4221e03c603b52229" ++
     "226100b1226522642320232100f7224800b0221900b7221a207f00b225a000a0"),
   (["cp866", "csibm866", "ibm866"],
     "0410041104120413041404150416041704180419041a041b041c041d041e041f" ++
     "0420042104220423042404250426042704280429042a042b042c042d042e042f" ++
     "0430043104320433043404350436043704380439043a043b043c043d043e043f" ++
     "259125922593250225242561256225562555256325512557255d255c255b2510" ++
     "25142534252c251c2500253c255e255f255a25542569256625602550256c2567" ++
     "2568256425652559255825522553256b256a2518250c25882584258c25902580" ++
     "0440044104420443044404450446044704480449044a044b044c044d044e044f" ++
     "040104510404045404070457040e045e00b0221900b7221a211600a425a000a0"),
   (["cp869", "cp_gr", "csibm869", "ibm869"],
     "fffdfffdfffdfffdfffdfffd0386fffd00b700ac00a620182019038820150389" ++
     "038a03aa038cfffdfffd038e03ab00a9038f00b200b303ac00a303ad03ae03af" ++
     "03ca039003cc03cd039103920393039403950396039700bd0398039900ab00bb" ++
     "25912592259325022524039a039b039c039d256325512557255d039e039f2510" ++
     "25142534252c251c2500253c03a003a1255a25542569256625602550256c03a3" ++
     "03a403a503a603a703a803a903b103b203b32518250c2588258403b403b52580" ++
     "03b603b703b803b903ba03bb03bc03bd03be03bf03c003c103c303c203c40384" ++
     "00ad00b103c503c603c700a703c8038500b000a803c903cb03b003ce25a000a0"),
   (["cp874"],
     "20acfffdfffdfffdfffd2026fffdfffdfffdfffdfffdfffdfffdfffdfffdfffd" ++
     "fffd20182019201c201d202220132014fffdfffdfffdfffdfffdfffdfffdfffd" ++
     "00a00e010e020e030e040e050e060e070e080e090e0a0e0b0e0c0e0d0e0e0e0f" ++
     "0e100e110e120e130e140e150e160e170e180e190e1a0e1b0e1c0e1d0e1e0e1f" ++
     "0e200e210e220e230e240e250e260e270e280e290e2a0e2b0e2c0e2d0e2e0e2f" ++
     "0e300e310e320e330e340e350e360e370e380e390e3afffdfffdfffdfffd0e3f" ++
     "0e400e410e420e430e440e450e460e470e480e490e4a0e4b0e4c0e4d0e4e0e4f" ++
     "0e500e510e520e530e540e550e560e570e580e590e5a0e5bfffdfffdfffdfffd"),
   (["csisolatin2", "iso8859_2", "iso_8859_2", "iso_8859_2_1987", "iso_ir_101", "l2", "latin2"],
     "0080008100820083008400850086008700880089008a008b008c008d008e008f" ++
     "0090009100920093009400950096009700980099009a009b009c009d009e009f" ++
     "00a0010402d8014100a4013d015a00a700a80160015e0164017900ad017d017b" ++
     "00b0010502db014200b4013e015b02c700b80161015f0165017a02dd017e017c" ++
     "015400c100c2010200c40139010600c7010c00c9011800cb011a00cd00ce010e" ++
     "01100143014700d300d4015000d600d70158016e00da017000dc00dd016200df" ++
     "015500e100e2010300e4013a010700e7010d00e9011900eb011b00ed00ee010f" ++
     "01110144014800f300f4015100f600f70159016f00fa017100fc00fd016302d9"),
   (["csisolatin3", "iso8859_3", "iso_8859_3", "iso_8859_3_1988", "iso_ir_109", "l3", "latin3"],
     "0080008100820083008400850086008700880089008a008b008c008d008e008f" ++
     "0090009100920093009400950096009700980099009a009b009c009d009e009f" ++
     "00a0012602d800a300a4fffd012400a700a80130015e011e013400adfffd017b" ++
     "00b0012700b200b300b400b5012500b700b80131015f011f013500bdfffd017c" ++
     "00c000c100c2fffd00c4010a010800c700c800c900ca00cb00cc00cd00ce00cf" ++
     "fffd00d100d200d300d4012000d600d7011c00d900da00db00dc016c015c00df" ++
     "00e000e100e2fffd00e4010b010900e700e800e900ea00eb00ec00ed00ee00ef" ++
     "fffd00f100f200f300f4012100f600f7011d00f900fa00fb00fc016d015d02d9"),
   (["csisolatin4", "iso8859_4", "iso_8859_4", "iso_8859_4_1988", "iso_ir_110", "l4", "latin4"],
     "0080008100820083008400850086008700880089008a008b008c008d008e008f" ++
     "0090009100920093009400950096009700980099009a009b009c009d009e009f" ++
     "00a001040138015600a40128013b00a700a8016001120122016600ad017d00af" ++
     "00b0010502db015700b40129013c02c700b80161011301230167014a017e014b" ++
     "010000c100c200c300c400c500c6012e010c00c9011800cb011600cd00ce012a" ++
     "01100145014c013600d400d500d600d700d8017200da00db00dc0168016a00df" ++
     "010100e100e200e300e400e500e6012f010d00e9011900eb011700ed00ee012b" ++
     "01110146014d013700f400f500f600f700f8017300fa00fb00fc0169016b02d9"),
   (["csisolatin5", "iso8859_9", "iso_8859_9", "iso_8859_9_1989", "iso_ir_148", "l5", "latin5"],
     "0080008100820083008400850086008700880089008a008b008c008d008e008f" ++
     "0090009100920093009400950096009700980099009a009b009c009d009e009f" ++
     "00a000a100a200a300a400a500a600a700a800a900aa00ab00ac00ad00ae00af" ++
     "00b000b100b200b300b400b500b600b700b800b900ba00bb00bc00bd00be00bf" ++
     "00c000c100c200c300c400c500c600c700c800c900ca00cb00cc00cd00ce00cf" ++
     "011e00d100d200d300d400d500d600d700d800d900da00db00dc0130015e00df" ++
     "00e000e100e200e300e400e500e600e700e800e900ea00eb00ec00ed00ee00ef" ++
     "011f00f100f200f300f400f500f600f700f800f900fa00fb00fc0131015f00ff"),
   (["csisolatin6", "iso8859_10", "iso_8859_10", "iso_8859_10_1992", "iso_ir_157", "l6", "latin6"],
     "0080008100820083008400850086008700880089008a008b008c008d008e008f" ++
     "0090009100920093009400950096009700980099009a009b009c009d009e009f" ++
     "00a0010401120122012a0128013600a7013b011001600166017d00ad016a014a" ++
     "00b0010501130123012b0129013700b7013c011101610167017e2015016b014b" ++
     "010000c100c200c300c400c500c6012e010c00c9011800cb011600cd00ce00cf" ++
     "00d00145014c00d300d400d500d6016800d8017200da00db00dc00dd00de00df" ++
     "010100e100e200e300e400e500e6012f010d00e9011900eb011700ed00ee00ef" ++
     "00f00146014d00f300f400f500f6016900f8017300fa00fb00fc00fd00fe0138"),
   (["csisolatincyrillic", "cyrillic", "iso8859_5", "iso_8859_5", "iso_8859_5_1988", "iso_ir_144"],
     "0080008100820083008400850086008700880089008a008b008c008d008e008f" ++
     "0090009100920093009400950096009700980099009a009b009c009d009e009f" ++
     "00a0040104020403040404050406040704080409040a040b040c00ad040e040f" ++
     "0410041104120413041404150416041704180419041a041b041c041d041e041f" ++
     "0420042104220423042404250426042704280429042a042b042c042d042e042f" ++
     "0430043104320433043404350436043704380439043a043b043c043d043e043f" ++
     "0440044104420443044404450446044704480449044a044b044c044d044e044f" ++
     "2116045104520453045404550456045704580459045a045b045c00a7045e045f"),
   (["csisolatingreek", "ecma_118", "elot_928", "greek", "greek8", "iso8859_7", "iso_8859_7",
    "iso_8859_7_1987", "iso_ir_126"],
     "0080008100820083008400850086008700880089008a008b008c008d008e008f" ++
     "0090009100920093009400950096009700980099009a009b009c009d009e009f" ++
     "00a02018201900a320ac20af00a600a700a800a9037a00ab00ac00adfffd2015" ++
     "00b000b100b200b303840385038600b703880389038a00bb038c00bd038e038f" ++
     "0390039103920393039403950396039703980399039a039b039c039d039e039f" ++
     "03a003a1fffd03a303a403a503a603a703a803a903aa03ab03ac03ad03ae03af" ++
     "03b003b103b203b303b403b503b603b703b803b903ba03bb03bc03bd03be03bf" ++
     "03c003c103c203c303c403c503c603c703c803c903ca03cb03cc03cd03cefffd"),
   (["csisolatinhebrew", "hebrew", "iso8859_8", "iso_8859_8", "iso_8859_8_1988", "iso_ir_138"],
     "0080008100820083008400850086008700880089008a008b008c008d008e008f" ++
     "0090009100920093009400950096009700980099009a009b009c009d009e009f" ++
     "00a0fffd00a200a300a400a500a600a700a800a900d700ab00ac00ad00ae00af" ++
     "00b000b100b200b300b400b500b600b700b800b900f700bb00bc00bd00befffd" ++
     "fffdfffdfffdfffdfffdfffdfffdfffdfffdfffdfffdfffdfffdfffdfffdfffd" ++
     "fffdfffdfffdfffdfffdfffdfffdfffdfffdfffdfffdfffdfffdfffdfffd2017" ++
     "05d005d105d205d305d405d505d605d705d805d905da05db05dc05dd05de05df" ++
     "05e005e105e205e305e405e505e605e705e805e905eafffdfffd200e200ffffd"),
   (["cskoi8r", "koi8_r"],
     "25002502250c251025142518251c2524252c2534253c258025842588258c2590" ++
     "259125922593232025a02219221a22482264226500a0232100b000b200b700f7" ++
     "25502551255204512553255425552556255725582559255a255b255c255d255e" ++
     "255f25602561040125622563256425652566256725682569256a256b256c00a9" ++
     "044e0430043104460434043504440433044504380439043a043b043c043d043e" ++
     "043f044f044004410442044304360432044c044b04370448044d04490447044a" ++
     "042e0410041104260414041504240413042504180419041a041b041c041d041e" ++
     "041f042f042004210422042304160412042c042b04170428042d04290427042a"),
   (["iso8859_11", "iso_8859_11", "iso_8859_11_2001", "thai"],
     "0080008100820083008400850086008700880089008a008b008c008d008e008f" ++
     "0090009100920093009400950096009700980099009a009b009c009d009e009f" ++
     "00a00e010e020e030e040e050e060e070e080e090e0a0e0b0e0c0e0d0e0e0e0f" ++
     "0e100e110e120e130e140e150e160e170e180e190e1a0e1b0e1c0e1d0e1e0e1f" ++
     "0e200e210e220e230e240e250e260e270e280e290e2a0e2b0e2c0e2d0e2e0e2f" ++
     "0e300e310e320e330e340e350e360e370e380e390e3afffdfffdfffdfffd0e3f" ++
     "0e400e410e420e430e440e450e460e470e480e490e4a0e4b0e4c0e4d0e4e0e4f" ++
     "0e500e510e520e530e540e550e560e570e580e590e5a0e5bfffdfffdfffdfffd"),
   (["iso8859_13", "iso_8859_13", "l7", "latin7"],
     "0080008100820083008400850086008700880089008a008b008c008d008e008f" ++
     "0090009100920093009400950096009700980099009a009b009c009d009e009f" ++
     "00a0201d00a200a300a4201e00a600a700d800a9015600ab00ac00ad00ae00c6" ++
     "00b000b100b200b3201c00b500b600b700f800b9015700bb00bc00bd00be00e6" ++
     "0104012e0100010600c400c501180112010c00c90179011601220136012a013b" ++
     "01600143014500d3014c00d500d600d701720141015a016a00dc017b017d00df" ++
     "0105012f0101010700e400e501190113010d00e9017a011701230137012b013c" ++
     "01610144014600f3014d00f500f600f701730142015b016b00fc017c017e2019"),
   (["iso8859_14", "iso_8859_14", "iso_8859_14_1998", "iso_celtic", "iso_ir_199", "l8", "latin8"],
     "0080008100820083008400850086008700880089008a008b008c008d008e008f" ++
     "0090009100920093009400950096009700980099009a009b009c009d009e009f" ++
     "00a01e021e0300a3010a010b1e0a00a71e8000a91e821e0b1ef200ad00ae0178" ++
     "1e1e1e1f012001211e401e4100b61e561e811e571e831e601ef31e841e851e61" ++
     "00c000c100c200c300c400c500c600c700c800c900ca00cb00cc00cd00ce00cf" ++
     "017400d100d200d300d400d500d61e6a00d800d900da00db00dc00dd017600df" ++
     "00e000e100e200e300e400e500e600e700e800e900ea00eb00ec00ed00ee00ef" ++
     "017500f100f200f300f400f500f61e6b00f800f900fa00fb00fc00fd017700ff"),
   (["iso8859_15", "iso_8859_15", "l9", "latin9"],
     "0080008100820083008400850086008700880089008a008b008c008d008e008f" ++
     "0090009100920093009400950096009700980099009a009b009c009d009e009f" ++
     "00a000a100a200a320ac00a5016000a7016100a900aa00ab00ac00ad00ae00af" ++
     "00b000b100b200b3017d00b500b600b7017e00b900ba00bb01520153017800bf" ++
     "00c000c100c200c300c400c500c600c700c800c900ca00cb00cc00cd00ce00cf" ++
     "00d000d100d200d300d400d500d600d700d800d900da00db00dc00dd00de00df" ++
     "00e000e100e200e300e400e500e600e700e800e900ea00eb00ec00ed00ee00ef" ++
     "00f000f100f200f300f400f500f600f700f800f900fa00fb00fc00fd00fe00ff"),
   (["iso8859_16", "iso_8859_16", "iso_8859_16_2001", "iso_ir_226", "l10", "latin10"],
     "0080008100820083008400850086008700880089008a008b008c008d008e008f" ++
     "0090009100920093009400950096009700980099009a009b009c009d009e009f" ++
     "00a001040105014120ac201e016000a7016100a9021800ab017900ad017a017b" ++
     "00b000b1010c0142017d201d00b600b7017e010d021900bb015201530178017c" ++
     "00c000c100c2010200c4010600c600c700c800c900ca00cb00cc00cd00ce00cf" ++
     "0110014300d200d300d4015000d6015a017000d900da00db00dc0118021a00df" ++
     "00e000e100e2010300e4010700e600e700e800e900ea00eb00ec00ed00ee00ef" ++
     "0111014400f200f300f4015100f6015b017100f900fa00fb00fc0119021b00ff"),
   (["iso_ir_166", "tis620", "tis_620", "tis_620_0", "tis_620_2529_0", "tis_620_2529_1"],
     "0080008100820083008400850086008700880089008a008b008c008d008e008f" ++
     "0090009100920093009400950096009700980099009a009b009c009d009e009f" ++
     "fffd0e010e020e030e040e050e060e070e080e090e0a0e0b0e0c0e0d0e0e0e0f" ++
     "0e100e110e120e130e140e150e160e170e180e190e1a0e1b0e1c0e1d0e1e0e1f" ++
     "0e200e210e220e230e240e250e260e270e280e290e2a0e2b0e2c0e2d0e2e0e2f" ++
     "0e300e310e320e330e340e350e360e370e380e390e3afffdfffdfffdfffd0e3f" ++
     "0e400e410e420e430e440e450e460e470e480e490e4a0e4b0e4c0e4d0e4e0e4f" ++
     "0e500e510e520e530e540e550e560e570e580e590e5a0e5bfffdfffdfffdfffd"),
   (["koi8_t"],
     "049b0493201a0492201e202620202021fffd203004b3203904b204b704b6fffd" ++
     "049a20182019201c201d202220132014fffd2122fffd203afffdfffdfffdfffd" ++
     "fffd04ef04ee045100a404e300a600a7fffdfffdfffd00ab00ac00ad00aefffd" ++
     "00b000b100b20401fffd04e200b600b7fffd2116fffd00bbfffdfffdfffd00a9" ++
     "044e0430043104460434043504440433044504380439043a043b043c043d043e" ++
     "043f044f044004410442044304360432044c044b04370448044d04490447044a" ++
     "042e0410041104260414041504240413042504180419041a041b041c041d041e" ++
     "041f042f042004210422042304160412042c042b04170428042d04290427042a"),
   (["koi8_u"],
     "25002502250c251025142518251c2524252c2534253c258025842588258c2590" ++
     "259125922593232025a02219221a22482264226500a0232100b000b200b700f7" ++
     "25502551255204510454255404560457255725582559255a255b0491255d255e" ++
     "255f25602561040104042563040604072566256725682569256a0490256c00a9" ++
     "044e0430043104460434043504440433044504380439043a043b043c043d043e" ++
     "043f044f044004410442044304360432044c044b04370448044d04490447044a" ++
     "042e0410041104260414041504240413042504180419041a041b041c041d041e" ++
     "041f042f042004210422042304160412042c042b04170428042d04290427042a"),
   (["kz1048", "kz_1048", "rk1048", "strk1048_2002"],
     "04020403201a0453201e20262020202120ac203004092039040a049a04ba040f" ++
     "045220182019201c201d202220132014fffd21220459203a045a049b04bb045f" ++
     "00a004b004b104d800a404e800a600a7040100a9049200ab00ac00ad00ae04ae" ++
     "00b000b10406045604e900b500b600b704512116049300bb04d904a204a304af" ++
     "0410041104120413041404150416041704180419041a041b041c041d041e041f" ++
     "0420042104220423042404250426042704280429042a042b042c042d042e042f" ++
     "0430043104320433043404350436043704380439043a043b043c043d043e043f" ++
     "0440044104420443044404450446044704480449044a044b044c044d044e044f"),
   (["mac_centeuro", "mac_latin2", "maccentraleurope", "maclatin2"],
     "00c40100010100c9010400d600dc00e10105010c00e4010d0106010700e90179" ++
     "017a010e00ed010f01120113011600f3011700f400f600f500fa011a011b00fc" ++
     "202000b0011800a300a7202200b600df00ae00a92122011900a822600123012e" ++
     "012f012a22642265012b0136220222110142013b013c013d013e0139013a0145" ++
     "0146014300ac221a01440147220600ab00bb202600a00148015000d50151014c" ++
     "20132014201c201d2018201900f725ca014d0154015501582039203a01590156" ++
     "01570160201a201e0161015a015b00c10164016500cd017d017e016a00d300d4" ++
     "016b016e00da016f017001710172017300dd00fd0137017b0141017c012202c7"),
   (["mac_croatian"],
     "00c400c500c700c900d100d600dc00e100e000e200e400e300e500e700e900e8" ++
     "00ea00eb00ed00ec00ee00ef00f100f300f200f400f600f500fa00f900fb00fc" ++
     "202000b000a200a300a7202200b600df00ae0160212200b400a82260017d00d8" ++
     "221e00b122642265220600b522022211220f0161222b00aa00ba03a9017e00f8" ++
     "00bf00a100ac221a01922248010600ab010c202600a000c000c300d501520153" ++
     "01102014201c201d2018201900f725caf8ff00a9204420ac2039203a00c600bb" ++
     "201300b7201a201e203000c2010700c1010d00c800cd00ce00cf00cc00d300d4" ++
     "011100d200da00db00d9013102c602dc00af03c000cb02da00b800ca00e602c7"),
   (["mac_cyrillic", "maccyrillic"],
     "0410041104120413041404150416041704180419041a041b041c041d041e041f" ++
     "0420042104220423042404250426042704280429042a042b042c042d042e042f" ++
     "202000b0049000a300a7202200b6040600ae00a9212204020452226004030453" ++
     "221e00b122642265045600b504910408040404540407045704090459040a045a" ++
     "0458040500ac221a01922248220600ab00bb202600a0040b045b040c045c0455" ++
     "20132014201c201d2018201900f7201e040e045e040f045f211604010451044f" ++
     "0430043104320433043404350436043704380439043a043b043c043d043e043f" ++
     "0440044104420443044404450446044704480449044a044b044c044d044e20ac"),
   (["mac_greek", "macgreek"],
     "00c400b900b200c900b300d600dc038500e000e200e4038400a800e700e900e8" ++
     "00ea00eb00a3212200ee00ef202200bd203000f400f600a620ac00f900fb00fc" ++
     "2020039303940398039b039e03a000df00ae00a903a303aa00a7226000b000b7" ++
     "039100b12264226500a503920395039603970399039a039c03a603ab03a803a9" ++
     "03ac039d00ac039f03a1224803a400ab00bb202600a003a503a7038603880153" ++
     "20132015201c201d2018201900f70389038a038c038e03ad03ae03af03cc038f" ++
     "03cd03b103b203c803b403b503c603b303b703b903be03ba03bb03bc03bd03bf" ++
     "03c003ce03c103c303c403b803c903c203c703c503b603ca03cb039003b000ad"),
   (["mac_iceland", "maciceland"],
     "00c400c500c700c900d100d600dc00e100e000e200e400e300e500e700e900e8" ++
     "00ea00eb00ed00ec00ee00ef00f100f300f200f400f600f500fa00f900fb00fc" ++
     "00dd00b000a200a300a7202200b600df00ae00a9212200b400a8226000c600d8" ++
     "221e00b12264226500a500b522022211220f03c0222b00aa00ba03a900e600f8" ++
     "00bf00a100ac221a01922248220600ab00bb202600a000c000c300d501520153" ++
     "20132014201c201d2018201900f725ca00ff0178204420ac00d000f000de00fe" ++
     "00fd00b7201a201e203000c200ca00c100cb00c800cd00ce00cf00cc00d300d4" ++
     "f8ff00d200da00db00d9013102c602dc00af02d802d902da00b802dd02db02c7"),
   (["mac_roman", "macintosh", "macroman"],
     "00c400c500c700c900d100d600dc00e100e000e200e400e300e500e700e900e8" ++
     "00ea00eb00ed00ec00ee00ef00f100f300f200f400f600f500fa00f900fb00fc" ++
     "202000b000a200a300a7202200b600df00ae00a9212200b400a8226000c600d8" ++
     "221e00b12264226500a500b522022211220f03c0222b00aa00ba03a900e600f8" ++
     "00bf00a100ac221a01922248220600ab00bb202600a000c000c300d501520153" ++
     "20132014201c201d2018201900f725ca00ff0178204420ac2039203afb01fb02" ++
     "202100b7201a201e203000c200ca00c100cb00c800cd00ce00cf00cc00d300d4" ++
     "f8ff00d200da00db00d9013102c602dc00af02d802d902da00b802dd02db02c7"),
   (["mac_romanian"],
     "00c400c500c700c900d100d600dc00e100e000e200e400e300e500e700e900e8" ++
     "00ea00eb00ed00ec00ee00ef00f100f300f200f400f600f500fa00f900fb00fc" ++
     "202000b000a200a300a7202200b600df00ae00a9212200b400a8226001020218" ++
     "221e00b12264226500a500b522022211220f03c0222b00aa00ba03a901030219" ++
     "00bf00a100ac221a01922248220600ab00bb202600a000c000c300d501520153" ++
     "20132014201c201d2018201900f725ca00ff0178204420ac2039203a021a021b" ++
     "202100b7201a201e203000c200ca00c100cb00c800cd00ce00cf00cc00d300d4" ++
     "f8ff00d200da00db00d9013102c602dc00af02d802d902da00b802dd02db02c7"),
   (["mac_turkish", "macturkish"],
     "00c400c500c700c900d100d600dc00e100e000e200e400e300e500e700e900e8" ++
     "00ea00eb00ed00ec00ee00ef00f100f300f200f400f600f500fa00f900fb00fc" ++
     "202000b000a200a300a7202200b600df00ae00a9212200b400a8226000c600d8" ++
     "221e00b12264226500a500b522022211220f03c0222b00aa00ba03a900e600f8" ++
     "00bf00a100ac221a01922248220600ab00bb202600a000c000c300d501520153" ++
     "20132014201c201d2018201900f725ca00ff0178011e011f01300131015e015f" ++
     "202100b7201a201e203000c200ca00c100cb00c800cd00ce00cf00cc00d300d4" ++
     "f8ff00d200da00db00d9f8a002c602dc00af02d802d902da00b802dd02db02c7"),
   (["palmos"],
     "20ac0081201a0192201e20262020202102c62030016020390152266626632665" ++
     "266020182019201c201d20222013201402dc21220161009b0153009d009e0178" ++
     "00a000a100a200a300a400a500a600a700a800a900aa00ab00ac00ad00ae00af" ++
     "00b000b100b200b300b400b500b600b700b800b900ba00bb00bc00bd00be00bf" ++
     "00c000c100c200c300c400c500c600c700c800c900ca00cb00cc00cd00ce00cf" ++
     "00d000d100d200d300d400d500d600d700d800d900da00db00dc00dd00de00df" ++
     "00e000e100e200e300e400e500e600e700e800e900ea00eb00ec00ed00ee00ef" ++
     "00f000f100f200f300f400f500f600f700f800f900fa00fb00fc00fd00fe00ff")]

def asciiSets : List String :=
  ["ansi_x3.4_1968", "ansi_x3.4_1986", "ansi_x3_4_1968", "ascii", "cp367", "cp65001", "csascii",
   "csiso2022jp", "ibm367", "iso2022_jp", "iso2022_jp_1", "iso2022_jp_2", "iso2022_jp_2004",
   "iso2022_jp_3", "iso2022_jp_ext", "iso2022jp", "iso2022jp_1", "iso2022jp_2", "iso2022jp_2004",
   "iso2022jp_3", "iso2022jp_ext", "iso646_us", "iso_2022_jp", "iso_2022_jp_1", "iso_2022_jp_2",
   "iso_2022_jp_2004", "iso_2022_jp_3", "iso_2022_jp_ext", "iso_646.irv_1991", "iso_ir_6", "u8",
   "us", "us_ascii", "utf", "utf8", "utf8_ucs2", "utf8_ucs4", "utf_8", "utf_8_sig"]

def tildelessSets : List String :=
  ["hz", "hz_gb", "hz_gb_2312", "hzgb"]

def wideSets : List String :=
  ["big5", "big5_hkscs", "big5_tw", "big5hkscs", "chinese", "cp1361", "cp932", "cp936", "cp949",
   "cp950", "csbig5", "csiso2022kr", "csiso58gb231280", "csshiftjis", "euc_cn", "euc_jis2004",
   "euc_jis_2004", "euc_jisx0213", "euc_jp", "euc_kr", "euccn", "eucgb2312_cn", "eucjis2004",
   "eucjisx0213", "eucjp", "euckr", "gb18030", "gb18030_2000", "gb2312", "gb2312_1980",
   "gb2312_80", "gbk", "hkscs", "iso2022_kr", "iso2022kr", "iso_2022_kr", "iso_ir_58", "jisx0213",
   "johab", "korean", "ks_c_5601", "ks_c_5601_1987", "ks_x_1001", "ksc5601", "ksx1001", "ms1361",
   "ms932", "ms936", "ms949", "ms950", "ms_kanji", "mskanji", "s_jis", "s_jis_2004", "s_jisx0213",
   "shift_jis", "shift_jis_2004", "shift_jisx0213", "shiftjis", "shiftjis2004", "shiftjisx0213",
   "sjis", "sjis_2004", "sjisx0213", "u16", "u32", "u7", "u_jis", "uhc", "ujis",
   "unicode_1_1_utf_7", "unicodebigunmarked", "unicodelittleunmarked", "utf16", "utf32", "utf7",
   "utf_16", "utf_16_be", "utf_16_le", "utf_16be", "utf_16le", "utf_32", "utf_32_be", "utf_32_le",
   "utf_32be", "utf_32le", "utf_7", "x_mac_japanese", "x_mac_korean", "x_mac_simp_chinese",
   "x_mac_trad_chinese"]

def undefinedSets : List String :=
  ["idna", "undefined"]

/-- Names, of those above, in which no dot may stand for an underscore. -/
def dotlessSets : List String :=
  ["ascii", "big5", "big5hkscs", "charmap", "cp1006", "cp1125", "cp1250", "cp1251", "cp1252",
   "cp1253", "cp1254", "cp1255", "cp1256", "cp1257", "cp1258", "cp437", "cp720", "cp737", "cp775",
   "cp850", "cp852", "cp855", "cp856", "cp857", "cp858", "cp860", "cp861", "cp862", "cp863",
   "cp865", "cp866", "cp869", "cp874", "cp932", "cp949", "cp950", "euc_jis_2004", "euc_jisx0213",
   "euc_jp", "euc_kr", "gb18030", "gb2312", "gbk", "hp_roman8", "hz", "idna", "iso2022_jp",
   "iso2022_jp_1", "iso2022_jp_2", "iso2022_jp_2004", "iso2022_jp_3", "iso2022_jp_ext",
   "iso2022_kr", "iso8859_10", "iso8859_11", "iso8859_13", "iso8859_14", "iso8859_15",
   "iso8859_16", "iso8859_2", "iso8859_3", "iso8859_4", "iso8859_5", "iso8859_6", "iso8859_7",
   "iso8859_8", "iso8859_9", "johab", "koi8_r", "koi8_t", "koi8_u", "kz1048", "latin_1",
   "mac_croatian", "mac_cyrillic", "mac_greek", "mac_iceland", "mac_latin2", "mac_roman",
   "mac_romanian", "mac_turkish", "palmos", "ptcp154", "raw_unicode_escape", "shift_jis",
   "shift_jis_2004", "shift_jisx0213", "tis_620", "undefined", "unicode_escape", "utf_16",
   "utf_16_be", "utf_16_le", "utf_32", "utf_32_be", "utf_32_le", "utf_7", "utf_8", "utf_8_sig"]

end FeatureSpec.Xml
