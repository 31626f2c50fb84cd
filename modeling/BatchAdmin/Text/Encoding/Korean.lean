/-
The characters of Korean: those of KS X 1001 and, around them, the
syllables that it lacks, 190 to a row.
-/
import BatchAdmin.Text.Encoding.Table

namespace BatchAdmin.Text

/-- The table of Korean. -/
def korean : CharTable := [
  "갂갃갅갆갋5갘갞갟갡3갥7갮갲3-6갵3갺갻갽3걁10걌걎6걕-6걖걗걙3걝19걲걳걵",
  "걶걹걻5겂겇겈겍3겑3겕7겞겢6겫겭겮겱7겺겾3곂곃곅3곉3곍8곖곘8곢곣곥곦곩",
  "곫곭곮곲곴곷5곾곿괁3괅괇5괎괐괒6괙3괝3괡8괪괫괮6-6괶괷괹3괽7굆굈굊6굑3",
  "굕3-6굙8굢굤8굮굯굱굲굷4굾궀궃5궊궋궍3궑11궞6궥18궸8귂귃귅3귉7귒귔8귝3",
  "귡3귥19귺귻귽귾긂6긊긌긎6긕8-6긝19긲긳긵긶긹긻긼-6긽3깂깄깇3깋깏깑3깕",
  "깗5깞깢3깦깧깪깫깭3깱7깺깾6꺆6꺍47꺿껁3껅7껎껒6껚껛껝11껩껪껬껮6껵3껹3",
  "껽9-6꼆꼉4꼎꼏꼑19-6꼤8꼮꼯꼱꼳꼵7꼾꽀꽄4꽊6꽑11꽞6꽦19꽺6꾁3꾅3꾉7꾒3",
  "꾖6꾝27꾺꾻꾽3꿁6꿊꿌꿏5꿕7꿝5-6꿢6꿪6꿲꿳꿵3꿹7뀂뀃-6뀅7뀍3뀑3뀕7뀞10",
  "뀩27끆끇끉끋끍끏4끖끘끚3끞30끾끿낁3낅7낎낐낒6낛낝낞낣5낪낰낲낶낷낹3낽7",
  "냆냊6냒-6냓냕3냙7냡4냦11-6냱23넊넍3넑넔4넚넞5넦넧넩3넭7넶넺6녂녃녅3녉7",
  "녒녓녖녗녙3녝3녡23녺녻녽3놁놃5놊놌놎4놕3놙3놝11놩16-6놹19뇍3뇑3뇕-6뇖6",
  "뇞뇠8뇪뇫뇭3뇱8뇺뇼뇾6눆눇눉눊눍7눖눘눚6눡19눵7눽27뉙3뉝3뉡7뉪10뉶6뉽7",
  "늆3늊5-6늏늒늓늕3늛5늢늤늧3늫늭3늱3늵3-6늸16닊닋닍3닑닓5닚닜닞4닣닧닩",
  "닪닰3닶닼3댂댃댅3댉7댒댖6댝55덗덙덚덝덠4덦덨덪덬덭덯덲덳덵3덹7뎂뎆6뎍",
  "-6뎎뎏뎑3뎕11뎢6뎩3뎭-6뎮22돆돇돉돊돍돏돑3돖돘돚돜돞돟돡3돥3돩19돽19",
  "됑7됙3됝3됡7됪됬8됵27둒둓둕3둙7둢둤둦-6둧5둭19뒁뒂-6뒃5뒉20뒞6뒥3뒩3",
  "뒭8뒶뒸뒺6듁3듅3듉7듑4듖6듞듟듡듢듥듧5듮듰듲6듹27딖딗딙딚딝7딦딫5딲딳",
  "딵3딹7땂땆-6땇4땎땏땑3땕7땞땢9-6땫53떢떣떥3떩떬4떲떶5떾떿뗁3뗅7뗎뗒6",
  "뗙19뗭35똒똓똕3똙5-6똞7똦6똭7똵6-6똻13뙉27뙥3뙩51뚞뚟뚡3뚥6뚭4뚲34뛕9",
  "-6뛞18뛱3뛵3뛹뛺-6뛻5뜂3뜆34뜪뜫뜭뜮뜱7뜺뜼8띅3띉3띍7띖10띡3띥3띩7띲띴",
  "띶6띾띿랁3랅7랎랓3랚랛랝3랡7랪랮6랶랷랹9-6럂5럈럊20-6럞14럮럯럱3럵7럾",
  "렂5렊렋렍3렑7렚렜렞6렦렧렩3렭7렶렺6롁3롅12롒롔8롞롟롡3롥7롮롰롲6롹3",
  "롽16뢎18-6뢠8뢩7뢱3뢵3뢹5-6뢾뢿룂룄룆6룍3룑3룕8룞룠룢6룪룫룭3룱7룺룼",
  "룾6뤅19뤙7뤡27뤾뤿륁3륅7륍륎륐륒6륚륛륝3륡7륪륬륮6륶륷륹3륽-6륾6릆릈릋",
  "릌릏16-6릟13릮릯릱3릵7릾맀맂6맊맋맍맓5맚맜맟맠맢맦맧맩3맭7맶맻5먂6먉12",
  "먖34먺먻먽3멁멃5멊멌멏4멖멗멙3멝7멦멪6-6멲멳멵3멹10몆몈4몍6-6몓21몪몭3",
  "몱몳5몺몼몾6뫅3뫉15뫚34뫽3묁3묅8묎묐묒6묙3묝3묡8묪묬8묷묹묺묿5뭆뭈뭊3",
  "뭎뭑뭒-6뭓뭕3뭙8뭢뭤8뭭5-6뭲22뮉3뮍3뮑19뮥3뮩3뮭7뮵뮶뮸8믁3믅3믉7믑믒",
  "믔36믺믻믽믾밁밃5밊밎밐밒밓밙밚밠4밦밨밪3밮밯밲밳밵-6밶밷밹7뱂뱆3뱊뱋",
  "뱎뱏뱑9-6뱚3뱞38벆벇벉벊벍벏5벖벘벛5벢벣벥벦벩7벲벶6벾벿볁3볅8볎볒3볖",
  "볗볙3볝23볷볹3볽7봆봈봊6봑3봕9-6봞6봥7봭13-6봺6뵁7뵊뵋뵍3뵑7뵚10뵥3",
  "뵩23붂붃붅붆붋5붒붔붖3붛붝7붥11붱7붹27뷖뷗뷙3뷝12뷪6뷱-6뷲뷳뷵3뷹7븁븂",
  "븄븆6븎븏븑3-6븕7븞븠36빆빇빉3빍빏5빖빘빜4빢빣빥3빩빫5빲빶5빾빿뺁3뺅7",
  "뺎뺒6뺚14뺩39뻒뻓-6뻕뻖뻙7뻡뻢뻦6뻭9-6뻶11뼂6뼊14뼚뼞34뽂뽃뽅3뽉7뽒3",
  "뽖62뾕9-6뾞18뾱8-6뾹12뿆6뿎뿏뿑3뿕7뿝뿞뿠뿢90쀽20쁒6쁙3-6쁝3쁡7쁪16-6",
  "쁺22삒삓삕3삙7삢삤삦6삮삱삲삷5삾샂3샆샇샊샋샍3샑7샚샞6샦샧샩3샭7샶샸",
  "샺6섁3섅3섉7섑4섖6섡섢섥섨4섮섲4섷섺섻섽3셁7셊셎6셖셗-6셙3셝7셦셪6셱3",
  "셵3셹3-6셼9솆6솏솑3솕솗5솞솠솢3솦솧솪솫솭3솱12솾6쇅3쇉3쇍7쇕쇖쇙7쇡3",
  "쇥3쇩7쇲쇴8쇾쇿숁3숅7숎숐숒6숚숛숝숞숡7숪숬숮숰숳숵17-6쉆쉇쉉7쉒쉓쉕3",
  "쉙7쉡4쉦-6쉧5쉮쉯쉱3쉵7쉾슀슂6슊6슑7슙슚슜슞6슦슧슩3슮6슶슸슺34싞싟싡",
  "싢싥6싮싰싲4싷싺싽3쌁7쌊쌋쌎5쌖쌗쌙3쌝7쌦쌧쌪9-6쌳18썆8-6썎26썪썫썭3썱",
  "썳5썺썻썾6쎅3쎉3쎍51쏁23쏚쏛쏝쏞쏡쏣5쏪3쏮6쏶쏷쏹6-6쏿9쐉7쐑10-6쐛9쐥7",
  "쐭3쐱3쐵7쐾10쑉27쑦쑧쑩3쑭7쑶3쑺6쒁19쒕7쒝27쒹3쒽9-6쓆26-6쓠9쓪6쓲쓳",
  "쓵3쓹쓻4씂10씍3씑3씕7씝11씪씫씭3씱7씺씼씾6앆앇앋앏4앖앚3앟앢앣앥3앩7앲",
  "앶6앾앿얁3얅얆얈4얎얐얒3얖얙3얝3얡8얪10얶-6얷얺얿5엋엍엏엒엓엕3엙7엢엤",
  "엦엧-6엨4엯엱3엵엸4옂3옉3옍3옑7옚옝7옦옧옩3옯옱옲옶옸옺옼4왂왃왅3왉7왒",
  "왖6왞왟왡11왭왮왰왲6왺왻왽3욁7욊욌욎6욖욗욙3욝7욦욨욪6욲욳욵3욻5웂웄",
  "웆6웎-6웏웑3웕7웞웟웢6웪웫웭3웱웲-6웳5웺3웾6윆윇윉3윍7윖윘윚6윢윣윥3",
  "윩7윲윴윶윸4윾윿읁3읅5읋읎읐읙3읝3읡7읩읪읬8읶읷읹3읿4잆잋3잏잒잓잕잙",
  "잛5잢잧5잮잯잱3잵7잾쟂6쟊쟋쟍쟏쟑7쟙4-6쟞6쟥3쟩3쟭14-6쟻5젂젃젅3젉젋5",
  "젒젔젗5젞젟젡3젥7젮젰젲6젹3젽3졁7졊졋졎6졕27졲졳졵3졹졻5좂좄좈3좎6좕8",
  "좞좠좢6좩19좾4-6죂죃죅3죉3죍7죖죘죚6죢죣죥-6죦15죶6죾죿줁3줇5줎\u30003",
  "·‥…¨〃\u00ad―∥＼∼‘’“”〔〕〈10±×÷≠≤≥∞∴°′″℃Å￠￡",
  "￥♂♀∠⊥⌒∂∇≡≒§※☆★○●◎◇◆□■△▲▽▼→←↑↓↔〓≪≫√∽",
  "∝∵∫∬∈∋⊆⊇⊂⊃∪∩∧∨￢줐줒6줙19-6줭7줵19-6쥈8쥒쥓쥕3쥙7쥢쥤8",
  "쥭3⇒⇔∀∃´～ˇ˘˝˚˙¸˛¡¿ː∮∑∏¤℉‰◁◀▷▶♤♠♡♥♧♣⊙",
  "◈▣◐◑▒▤▥▨▧▦▩♨☏☎☜☞¶†‡↕↗↙↖↘♭♩♪♬㉿㈜№㏇™㏂㏘",
  "℡€®-23쥱3쥵7쥽11즊즋즍3-6즑7즚즜즞17-6즯17짂짃짅짆짉짋5짒짔짗짘짛",
  "！59￦］33￣짞짟짡짣짥짦짨4짮짲6짺짻짽3쨁4-6쨅3쨊쨎6쨕3쨙13-6쨦3쨪29",
  "ㄱ94쩇5쩎쩏쩑3쩕7쩞쩢6쩩쩪-6쩫18쩾6쪅쪆-6쪇17쪙15ⅰ10-5Ⅰ10-7Α17Σ7-8",
  "α17σ7-6쪨20쪾쪿쫁3쫅-6쫆6쫎쫐쫒쫔4쫚6쫡7-6쫨4쫭7쫵19쬉쬊─│┌┐┘└",
  "├┬┤┴┼━┃┏┓┛┗┣┳┫┻╋┠┯┨┷┿┝┰┥┸╂┒┑┚┙┖┕┎┍┞",
  "┟┡┢┦┧┩┪┭┮┱┲┵┶┹┺┽┾╀╁╃8-26쬋5쬑3쬕3쬙7쬢8-6쬪23쭂3-6",
  "쭅3쭊쭋쭍3쭑7쭚3쭞6쭥8㎕3ℓ㎘㏄㎣4㎙10㏊㎍3㏏㎈㎉㏈㎧㎨㎰10㎀5㎺6㎐5Ω",
  "㏀㏁㎊3㏖㏅㎭3㏛㎩4㏝㏐㏓㏃㏉㏜㏆-15쭭11쭺15-6쮉19쮝7-6쮤20쮹12ÆÐª",
  "Ħ-Ĳ-ĿŁØŒºÞŦŊ-㉠28ⓐ26①15½⅓⅔¼¾⅛4쯅15쯕11-6쯠4쯥쯦쯨",
  "쯪19-6쯽15찎찏찑3찕7찞3찣찤æđðħıĳĸŀłøœßþŧŋŉ㈀28⒜26",
  "⑴15¹²³⁴ⁿ₁4찥찦찪찫찭찯찱7찺찿5챆챇챉3챍챎-6챏5챖챚6챡3챥챧챩7챱",
  "챲-6챳챴챶30ぁ83-11첔4첚첛첝3첡7첪첮6첶첷첹-6첺첻첽7쳆쳈쳊6쳑3쳕6-6쳛9",
  "쳥7쳭3쳱13ァ86-8쳾3촂6촊촋촍3촑7촚촜촞3-6촡3촥3촩3촭12촺5-6촿29쵝3А6",
  "ЁЖ26-15а6ёж26-13쵡3쵥7쵮쵰쵲6쵹8-6춁7춉11춖춗춙3춝3-6춠4춦춨춪6",
  "춱19췅-94췆6췍3췑17-6췢6췩3췭3췱7췺췼췾5-6츃츅3츉3츍7츕4츚6츢츣츥3츩3",
  "-94츬4츲츴츶20-6칊14칚칛칝칞칢6칪칬-6칮6칶칷칹3칽7캆캈캊6캒캓캕3캙-94",
  "캚6캢캦6캮13-6캻6컂20-6컖14컦컧컩컪컭7컶컺6가각간갇4감8같5갠갤갬갭갯3",
  "갸갹갼걀걋걍걔걘걜거걱건걷걸걺검겁것4겉4겐겔겜겝겟3겨3견겯결겸겹겻3곁",
  "계곈곌곕곗고곡곤곧골곪곬곯3곳공곶과곽관괄괆켂켃켅3켉7켒켔켖6켝3켡3-6",
  "켥7켮켲6켹12-6콅15콖콗콙3콝7콦콨콪3괌괍괏광괘괜괠괩괬괭괴괵괸괼굄굅굇",
  "굉교굔굘굡굣구국군굳4굻3굿궁궂궈궉권궐궜궝궤궷귀귁귄귈귐귑귓규균귤그극",
  "근귿3금급긋긍긔기긱긴긷길긺김깁깃깅깆깊까3깐깔깖깜깝깟3깥깨깩깬깰깸콭3",
  "콲콳콵3콹7쾁4쾆6쾍-6쾎19쾢6쾩-6쾪6쾱19쿅7깹깻3꺄꺅꺌꺼3껀껄껌껍껏3께껙",
  "껜껨껫껭껴껸껼꼇꼈꼍꼐꼬꼭꼰꼲꼴꼼꼽꼿꽁3꽈꽉꽐꽜꽝꽤꽥꽹꾀꾄꾈꾐꾑꾕",
  "꾜꾸꾹꾼꿀꿇3꿋꿍꿎꿔꿜꿨꿩꿰꿱꿴꿸뀀뀁뀄뀌뀐뀔뀜뀝뀨끄끅끈끊끌끎끓3끗",
  "끙쿌20쿢쿣쿥3쿩-6쿪6쿲쿴쿶6쿽3퀁3퀅6-6퀋6퀒6퀙20끝끼끽낀낄낌낍낏낑나3",
  "난낟4남납낫5낱낳3낸낼냄냅냇3냐냑냔냘냠냥너넉넋넌널넒넓넘넙넛3넣3넨넬넴",
  "넵넷3녀녁년녈념녑녔녕녘녜녠노녹논놀놂놈놉놋농높3놘놜놨뇌뇐뇔뇜뇝퀮6퀶",
  "퀷퀹3퀽7큆큈큊6-6큑3큕3큙7큡11큮큯-6큱3큵7큾3킂19뇟뇨뇩뇬뇰뇹뇻뇽누눅",
  "눈눋눌눔눕눗눙눠눴눼뉘뉜뉠뉨뉩뉴뉵뉼늄늅늉느늑는늘3늠늡늣능늦늪늬늰늴",
  "니닉닌닐닒님닙닛닝닢다3단닫5닳3닷5닿3댄댈댐댑댓3댜더3던덛덜덞덟덤덥",
  "킕15킦킧킩3킭6-6킳킶킸킺6탂탃탅3탊6탒탖5-6탛탞탟탡3탥7탮탲6탹12덧덩덫",
  "덮데덱덴델뎀뎁뎃3뎌뎐뎔뎠뎡뎨뎬도독돈돋돌돎돐돔돕돗동돛돝돠돤돨돼됐되",
  "된될됨됩됫됴두둑둔둘둠둡둣둥둬뒀뒈뒝뒤뒨뒬뒵뒷뒹듀듄듈듐듕드득든듣들듦",
  "듬듭듯등듸디딕딘딛딜딤딥딧4따딱딴딸턅8턎18-6턠16턲턳턵3턹턻4-6턿텂텆6",
  "텎텏텑3텕7텞텠텢6텩3텭땀땁땃3땋3땐땔땜땝땟3떠떡떤떨떪떫떰떱떳3떻3뗀뗄",
  "뗌뗍뗏3뗘뗬또똑똔똘똥똬똴뙈뙤뙨뚜뚝뚠뚤뚫뚬뚱뛔뛰뛴뛸뜀뜁뜅뜨뜩뜬뜯뜰",
  "뜸뜹뜻띄띈띌띔띕띠띤띨띰띱띳띵라락란랄람랍랏4랖랗텮14텽7톅3톉톊-6톋21",
  "톢톣톥3-6톩7톲톴톶4톻톽3퇁15래랙랜랠램랩랫3랴략랸럇량러럭런럴럼럽럿3",
  "렇3렌렐렘렙렛렝려력련렬렴렵렷3례롄롑롓로록론롤롬롭롯롱롸롼뢍뢨뢰뢴뢸룀",
  "룁룃룅료룐룔룝룟룡루룩룬룰룸룹룻룽뤄뤘뤠뤼뤽륀륄륌륏륑류륙륜률륨륩퇐8",
  "퇙18-6퇫9퇵3퇹14-6툈툊6툑25륫륭르륵른를름릅릇릉릊릍릎리릭린릴림립릿링",
  "마막만많5맘맙맛망맞맡맣3맨맬맴맵맷4먀먁먈먕머먹먼멀멂멈멉멋멍멎멓3멘멜",
  "멤멥멧3며멱면멸몃3몇몌모목몫몬몰몲몸몹못몽뫄뫈뫘뫙뫼툪툫툮툯툱3툵7툾퉀",
  "퉂6퉉4-6퉍15퉝7퉥4-6퉩23튂튃튅3튉4묀묄묍묏묑묘묜묠묩묫무3문묻4뭄뭅뭇뭉",
  "뭍뭏뭐뭔뭘뭡뭣뭬뮈뮌뮐뮤뮨뮬뮴뮷므믄믈믐믓미믹민믿밀밂밈밉밋3및밑바5",
  "받5밤밥밧방밭배백밴밸뱀뱁뱃3뱉뱌뱍뱐뱝버벅번벋벌벎범법벗튍3튒3튖6튝3",
  "튡3튥7튭-6튮3튲6튺튻튽튾틁틃5틊틌6-6틒틓틕3틙3틝7틦10틲틳틵3틹틺벙벚베",
  "벡벤벧벨벰벱벳3벼벽변별볍볏3볕볘볜보3본볼봄봅봇봉봐봔봤봬뵀뵈뵉뵌뵐뵘",
  "뵙뵤뵨부북분붇4붐붑붓붕붙붚붜붤붰붸뷔뷕뷘뷜뷩뷰뷴뷸븀븃븅브븍븐블븜븝",
  "븟비빅빈빌빎빔빕빗빙3빠빡빤틻5팂팄팆6팏팑3팕팗5팞팢팣-6팤팦팧팪팫팭3",
  "팱7팺팾6퍆4-6퍊32빨빪빰빱빳3빻3뺀뺄뺌뺍뺏3뺘뺙뺨뻐뻑뻔뻗뻘뻠뻣3뻬뼁뼈",
  "뼉뼘뼙뼛3뽀뽁뽄뽈뽐뽑뽕뾔뾰뿅뿌뿍뿐뿔뿜뿟뿡쀼쁑쁘쁜쁠쁨쁩삐삑삔삘삠삡",
  "삣삥사삭삯산삳4삼삽삿3샅새색샌샐샘샙샛3샤퍪18퍾퍿펁3펅3-6펈4펎펒6펚펛",
  "펝3펡7펪펬펮-6펯5펵3펹3펽7폆폇폊6폑6샥샨샬샴샵샷샹섀섄섈섐섕서5섣설섦",
  "섧섬섭섯3섶세섹센셀셈셉셋3셔셕션셜셤셥셧3셰셴셸솅소3손솔솖솜솝솟송솥솨",
  "솩솬솰솽쇄쇈쇌쇔쇗쇘쇠쇤쇨쇰쇱쇳쇼쇽숀숄숌숍숏숑수숙순숟술숨숩숫숭폗",
  "폙8폢폤8폮폯폱3폵3-6폸4폾퐀퐂6퐉14-6퐗6퐞26숯숱숲숴쉈쉐쉑쉔쉘쉠쉥쉬쉭",
  "쉰쉴쉼쉽쉿슁슈슉슐슘슛슝스슥슨슬슭슴습슷승시식신싣실싫3싯싱싶싸싹싻싼",
  "쌀쌈쌉쌌쌍쌓3쌘쌜쌤쌥쌨쌩썅써썩썬썰썲썸썹썼썽쎄쎈쎌쏀쏘쏙쏜쏟쏠쏢쏨쏩",
  "쏭쏴쏵쏸쐈쐐쐤쐬쐰퐸8푁3푅15-6푔8푝3푡3푥8푮푰3-6푳5푺푻푽푾풁풃5풊풌",
  "풎6풕9쐴쐼쐽쑈쑤쑥쑨쑬쑴쑵쑹쒀쒔쒜쒸쒼쓩쓰쓱쓴쓸쓺쓿3씌씐씔씜씨씩씬씰",
  "씸씹씻씽아악안3알3앓3앗3앝앞애액앤앨앰앱앳3야약얀얄얇얌얍얏양얕얗얘얜",
  "얠얩어억언얹얻4엄7엌엎풞11풪15-6풹19퓍3퓑3퓕-6퓖6퓝퓞퓠8퓩3퓭3퓱7퓹퓺",
  "퓼에엑엔엘엠엡엣엥여3연열엶엷염6옅4옌옐옘옙옛옜오옥온올3옰옳3옷옹옻와",
  "왁완왈왐왑왓3왜왝왠왬왯왱외왹왼욀욈욉욋욍요욕욘욜욤욥욧용우욱운울3움웁",
  "웃웅워웍원월웜웝웠웡웨퓾6픅3픉3픍7픖픘6-6픞26-6픸4픾픿핁3핅7핎핐핒6핚",
  "핛핝3핡3웩웬웰웸웹웽위윅윈윌윔윕윗윙유육윤율윰윱윳융윷으윽은을읊음읍읏",
  "응8읜읠읨읫이익인일3잃3잇4잎자작잔잖3잚잠잡잣4재잭잰잴잼잽잿3쟈쟉쟌쟎",
  "쟐쟘쟝쟤쟨쟬저적전절젊핤핦핧핪핬핮6핶핷핹3핽7햆햊햋-6햌4햑20햦햧-6햨32",
  "점접젓정젖제젝젠젤젬젭젯젱져젼졀졈졉졌졍졔조족존졸졺좀좁좃종3좋3좔좝좟",
  "좡좨좼좽죄죈죌죔죕죗죙죠죡죤죵주죽준줄3줌줍줏중줘줬줴쥐쥑쥔쥘쥠쥡쥣쥬",
  "쥰쥴쥼즈즉즌즐즘즙즛증지직진짇질짊짐집짓헊헋헍3헑헓5헚헜헞6헦헧헩3헭헮",
  "-6헯5헶헸헺6혂혃혅3혉7혒-6혖6혝3혡3혥8혮10혺혻징짖짙짚짜짝짠짢짤짧짬짭",
  "짯3째짹짼쨀쨈쨉쨋3쨔쨘쨩쩌쩍쩐쩔쩜쩝쩟3쩨쩽쪄쪘쪼쪽쫀쫄쫌쫍쫏쫑쫓쫘쫙",
  "쫠쫬쫴쬈쬐쬔쬘쬠쬡쭁쭈쭉쭌쭐쭘쭙쭝쭤쭸쭹쮜쮸쯔쯤쯧쯩찌찍찐찔찜찝찡찢",
  "찧3찬찮찰참찹찻혽3홁4홆홇홊홌홎3홒홓홖홗홙3홝5-6홢5홨홪6홲홳홵12-6횁횂",
  "횄횆6횎횏횑3횕8횞횠횢6횩횪찼3채책챈챌챔챕챗3챠챤챦챨챰챵처척천철첨첩",
  "첫3체첵첸첼쳄쳅쳇쳉쳐쳔쳤쳬쳰촁초촉촌촐촘촙촛총촤촨촬촹최쵠쵤쵬쵭쵯쵱",
  "쵸춈추축춘출춤춥춧충춰췄췌췐취췬췰췸췹췻췽츄츈츌츔츙츠측츤츨츰츱츳층횫",
  "횭3횱8횺횼8훆훇훉3-6훍4훒훓훕훖훘훚6훡3훥3훩5-6훮훯훱4훶6훾훿휁3휅12",
  "휒3치칙친칟3침칩칫칭카칵칸칼캄캅캇캉캐캑캔캘캠캡캣3캬캭컁커컥컨컫컬컴",
  "컵컷3케켁켄켈켐켑켓켕켜켠켤켬켭켯3켸코콕콘콜콤콥콧콩콰콱콴콸쾀쾅쾌쾡쾨",
  "쾰쿄쿠쿡쿤쿨쿰쿱쿳쿵쿼퀀퀄퀑퀘퀭퀴퀵퀸퀼휕3휚휛휝3휡7휪휬휮6휶휷휹-6휺",
  "휻휽7흅흆흈흊6흒흓흕흚5-6흟흢흤흦3흪흫흭3흱3흵7흾3힂6힊힋큄큅큇큉큐큔",
  "큘큠크큭큰클큼큽킁키킥킨킬킴킵킷킹타탁탄탈탉탐탑탓3태택탠탤탬탭탯3탸턍",
  "터턱턴털턺텀텁텃3테텍텐텔템텝텟텡텨텬텼톄톈토톡톤톨톰톱톳통톺톼퇀퇘퇴",
  "퇸툇툉툐투툭툰툴툼툽툿퉁퉈퉜힍3힑7힚힜힞6-78퉤튀튁튄튈튐튑튕튜튠튤튬튱",
  "트특튼튿틀틂틈틉틋틔틘틜틤틥티틱틴틸팀팁팃팅파3판팔팖팜팝팟3팥패팩팬팰",
  "팸팹팻3퍄퍅퍼퍽펀펄펌펍펏3페펙펜펠펨펩펫펭펴편펼폄폅폈평폐폘폡폣포폭폰",
  "폴폼폽폿퐁-96퐈퐝푀푄표푠푤푭푯푸푹푼푿풀풂품풉풋풍풔풩퓌퓐퓔퓜퓟퓨퓬",
  "퓰퓸퓻퓽프픈플픔픕픗피픽핀필핌핍핏핑하학한할핥함합핫항해핵핸핼햄햅햇3",
  "햐향허헉헌헐헒험헙헛헝헤헥헨헬헴헵헷헹혀혁현혈혐협혓3혜혠-96혤혭호혹혼",
  "홀홅홈홉홋홍홑화확환활홧황홰홱홴횃횅회획횐횔횝횟횡효횬횰횹횻후훅훈훌훑",
  "훔훗훙훠훤훨훰훵훼훽휀휄휑휘휙휜휠휨휩휫휭휴휵휸휼흄흇흉흐흑흔흖4흠흡",
  "흣흥흩희흰흴흼흽힁히힉힌힐힘힙힛힝-286伽佳假價加可呵哥嘉嫁家暇架枷柯歌",
  "珂痂稼苛茄街袈訶賈跏軻迦駕刻却各恪慤殼珏脚覺角閣侃刊墾奸姦干幹懇揀杆柬",
  "桿澗癎看磵稈竿簡肝艮艱諫間乫喝曷渴碣竭葛褐蝎鞨勘坎堪嵌感憾戡敢柑橄減甘",
  "疳監瞰紺邯鑑鑒龕-96匣岬甲胛鉀閘剛堈姜岡崗康强彊慷江畺疆糠絳綱羌腔舡薑",
  "襁講鋼降鱇介价個凱塏愷愾慨改槪漑疥皆盖箇芥蓋豈鎧開喀客坑更粳羹醵倨去居",
  "巨拒据據擧渠炬祛距踞車遽鉅鋸乾件健巾建愆楗腱虔蹇鍵騫乞傑杰桀儉劍劒檢",
  "-96瞼鈐黔劫怯迲偈憩揭擊格檄激膈覡隔堅牽犬甄絹繭肩見譴遣鵑抉決潔結缺訣",
  "兼慊箝謙鉗鎌京俓倞傾儆勁勍卿坰境庚徑慶憬擎敬景暻更梗涇炅烱璟璥瓊痙硬磬",
  "竟競絅經耕耿脛莖警輕逕鏡頃頸驚鯨係啓堺契季屆悸戒桂械-96棨溪界癸磎稽系",
  "繫繼計誡谿階鷄古叩告呱固姑孤尻庫拷攷故敲暠枯槁沽痼皐睾稿羔考股膏苦苽菰",
  "藁蠱袴誥賈辜錮雇顧高鼓哭斛曲梏穀谷鵠困坤崑昆梱棍滾琨袞鯤汨滑骨供公共功",
  "孔工恐恭拱控攻珙空蚣貢鞏串寡戈果瓜-96科菓誇課跨過鍋顆廓槨藿郭串冠官寬",
  "慣棺款灌琯瓘管罐菅觀貫關館刮恝括适侊光匡壙廣曠洸炚狂珖筐胱鑛卦掛罫乖傀",
  "塊壞怪愧拐槐魁宏紘肱轟交僑咬喬嬌嶠巧攪敎校橋狡皎矯絞翹膠蕎蛟較轎郊餃驕",
  "鮫丘久九仇俱具勾-96區口句咎嘔坵垢寇嶇廐懼拘救枸柩構歐毆毬求溝灸狗玖球",
  "瞿矩究絿耉臼舅舊苟衢謳購軀逑邱鉤銶駒驅鳩鷗龜國局菊鞠鞫麴君窘群裙軍郡堀",
  "屈掘窟宮弓穹窮芎躬倦券勸卷圈拳捲權淃眷厥獗蕨蹶闕机櫃潰詭軌饋句晷歸貴",
  "-96鬼龜叫圭奎揆槻珪硅窺竅糾葵規赳逵閨勻均畇筠菌鈞龜橘克剋劇戟棘極隙僅",
  "劤勤懃斤根槿瑾筋芹菫覲謹近饉契今妗擒昑檎琴禁禽芩衾衿襟金錦伋及急扱汲級",
  "給亘兢矜肯企伎其冀嗜器圻基埼夔奇妓寄岐崎己幾忌技旗旣-96朞期杞棋棄機欺",
  "氣汽沂淇玘琦琪璂璣畸畿碁磯祁祇祈祺箕紀綺羈耆耭肌記譏豈起錡錤飢饑騎騏驥",
  "麒緊佶吉拮桔金喫儺喇奈娜懦懶拏拿癩6那樂5諾酪4暖欄煖爛蘭難鸞捏捺南嵐枏",
  "楠湳濫男藍3-96納臘蠟衲囊娘廊5乃來內奈柰耐冷女年撚秊念恬拈捻寧寗努勞奴",
  "弩怒擄3瑙盧6駑魯11濃籠聾膿農惱牢磊腦賂雷尿壘8嫩訥杻紐勒6能菱陵尼泥匿溺",
  "多茶-96丹亶但單團壇彖斷旦檀段湍短端簞緞蛋袒鄲鍛撻澾獺疸達啖坍憺擔曇淡",
  "湛潭澹痰聃膽蕁覃談譚錟沓畓答踏遝唐堂塘幢戇撞棠當糖螳黨代垈坮大對岱帶待",
  "戴擡玳臺袋貸隊黛宅德悳倒刀到圖堵塗導屠島嶋度徒悼挑掉搗桃-96棹櫂淘渡滔",
  "濤燾盜睹禱稻萄覩賭跳蹈逃途道都鍍陶韜毒瀆牘犢獨督禿篤纛讀墩惇敦旽暾沌焞",
  "燉豚頓乭突仝冬凍動同憧東桐棟洞潼疼瞳童胴董銅兜斗杜枓痘竇荳讀豆逗頭屯臀",
  "芚遁遯鈍得嶝橙燈登等藤謄鄧騰喇懶拏癩羅-96蘿螺裸邏樂洛烙珞絡落諾酪駱丹",
  "亂卵欄欒瀾爛蘭鸞剌辣嵐擥攬欖濫籃纜藍襤覽拉臘蠟廊朗浪狼琅瑯螂郞來崍徠萊",
  "冷掠略亮倆兩凉梁樑粮粱糧良諒輛量侶儷勵呂廬慮戾旅櫚濾礪藜蠣閭驢驪麗黎力",
  "曆歷瀝礫轢靂憐戀攣漣-96煉璉練聯蓮輦連鍊冽列劣洌烈裂廉斂殮濂簾獵令伶囹",
  "寧岺嶺怜玲笭羚翎聆逞鈴零靈領齡例澧禮醴隷勞怒撈擄櫓潞瀘爐盧老蘆虜路輅露",
  "魯鷺鹵碌祿綠菉錄鹿麓論壟弄朧瀧瓏籠聾儡瀨牢磊賂賚賴雷了僚寮廖料燎療瞭聊",
  "蓼-96遼鬧龍壘婁屢樓淚漏瘻累縷蔞褸鏤陋劉旒柳榴流溜瀏琉瑠留瘤硫謬類六戮",
  "陸侖倫崙淪綸輪律慄栗率隆勒肋凜凌楞稜綾菱陵俚利厘吏唎履悧李梨浬犁狸理璃",
  "異痢籬罹羸莉裏裡里釐離鯉吝潾燐璘藺躪隣鱗麟林淋琳臨霖砬-96立笠粒摩瑪痲",
  "碼磨馬魔麻寞幕漠膜莫邈万卍娩巒彎慢挽晩曼滿漫灣瞞萬蔓蠻輓饅鰻唜抹末沫茉",
  "襪靺亡妄忘忙望網罔芒茫莽輞邙埋妹媒寐昧枚梅每煤罵買賣邁魅脈貊陌驀麥孟氓",
  "猛盲盟萌冪覓免冕勉棉沔眄眠綿緬面麵滅-96蔑冥名命明暝椧溟皿瞑茗蓂螟酩銘",
  "鳴袂侮冒募姆帽慕摸摹暮某模母毛牟牡瑁眸矛耗芼茅謀謨貌木沐牧目睦穆鶩歿沒",
  "夢朦蒙卯墓妙廟描昴杳渺猫竗苗錨務巫憮懋戊拇撫无楙武毋無珷畝繆舞茂蕪誣貿",
  "霧鵡墨默們刎吻問文-96汶紊紋聞蚊門雯勿沕物味媚尾嵋彌微未梶楣渼湄眉米美",
  "薇謎迷靡黴岷悶愍憫敏旻旼民泯玟珉緡閔密蜜謐剝博拍搏撲朴樸泊珀璞箔粕縛膊",
  "舶薄迫雹駁伴半反叛拌搬攀斑槃泮潘班畔瘢盤盼磐磻礬絆般蟠返頒飯勃拔撥渤潑",
  "-96發跋醱鉢髮魃倣傍坊妨尨幇彷房放方旁昉枋榜滂磅紡肪膀舫芳蒡蚌訪謗邦防",
  "龐倍俳北培徘拜排杯湃焙盃背胚裴裵褙賠輩配陪伯佰帛柏栢白百魄幡樊煩燔番磻",
  "繁蕃藩飜伐筏罰閥凡帆梵氾汎泛犯範范法琺僻劈壁擘檗璧癖-96碧蘗闢霹便卞弁",
  "變辨辯邊別瞥鱉鼈丙倂兵屛幷昞昺柄棅炳甁病秉竝輧餠騈保堡報寶普步洑湺潽珤",
  "甫菩補褓譜輔伏僕匐卜宓復服福腹茯蔔複覆輹輻馥鰒本乶俸奉封峯峰捧棒烽熢琫",
  "縫蓬蜂逢鋒鳳不付俯傅剖副否咐埠夫婦-96孚孵富府復扶敷斧浮溥父符簿缶腐腑",
  "膚艀芙莩訃負賦賻赴趺部釜阜附駙鳧北分吩噴墳奔奮忿憤扮昐汾焚盆粉糞紛芬賁",
  "雰不佛弗彿拂崩朋棚硼繃鵬丕備匕匪卑妃婢庇悲憊扉批斐枇榧比毖3沸泌琵痺砒",
  "碑秕秘粃緋翡肥-96脾臂菲蜚裨誹譬費鄙非飛鼻嚬嬪彬斌檳殯浜濱瀕牝玭貧賓頻",
  "憑氷聘騁乍事些仕伺似使俟僿史司唆嗣四士奢娑寫寺射巳師徙思捨斜斯柶査梭死",
  "沙泗渣瀉獅砂社祀祠私篩紗絲肆舍莎蓑蛇裟詐詞謝賜赦辭邪飼駟麝削數朔索-96",
  "傘刪山散汕珊産疝算蒜酸霰乷撒殺煞薩三參杉森渗芟蔘衫揷澁鈒颯上傷像償商喪",
  "嘗孀尙峠常床庠廂想桑橡湘爽牀狀相祥箱翔裳觴詳象賞霜塞璽賽嗇塞穡索色牲生",
  "甥省笙墅壻嶼序庶徐恕抒捿敍暑曙書栖棲犀瑞筮絮緖署-96胥舒薯西誓逝鋤黍鼠",
  "夕奭席惜昔晳析汐淅潟石碩蓆釋錫仙僊先善嬋宣扇敾旋渲煽琁瑄璇璿癬禪線繕羨",
  "腺膳船蘚蟬詵跣選銑鐥饍鮮卨屑楔泄洩渫舌薛褻設說雪齧剡暹殲纖蟾贍閃陝攝涉",
  "燮葉城姓宬性惺成星晟猩珹盛省筬-96聖聲腥誠醒世勢歲洗稅笹細說貰召嘯塑宵",
  "小少巢所掃搔昭梳沼消溯瀟炤燒甦疏疎瘙笑篠簫素紹蔬蕭蘇訴逍遡邵銷韶騷俗屬",
  "束涑粟續謖贖速孫巽損蓀遜飡率宋悚松淞訟誦送頌刷殺灑碎鎖衰釗修受嗽囚垂壽",
  "嫂守岫峀帥愁-96戍手授搜收數樹殊水洙漱燧狩獸琇璲瘦睡秀穗竪粹綏綬繡羞脩",
  "茱蒐蓚藪袖誰讐輸遂邃酬銖銹隋隧隨雖需須首髓鬚叔塾夙孰宿淑潚熟琡璹肅菽巡",
  "徇循恂旬栒楯橓殉洵淳珣盾瞬筍純脣舜荀蓴蕣詢諄醇錞順馴戌術述鉥崇崧-96嵩",
  "瑟膝蝨濕拾習褶襲丞乘僧勝升承昇繩蠅陞侍匙嘶始媤尸屎屍市弑恃施是時枾柴猜",
  "矢示翅蒔蓍視試詩諡豕豺埴寔式息拭植殖湜熄篒蝕識軾食飾伸侁信呻娠宸愼新晨",
  "燼申神紳腎臣莘薪藎蜃訊身辛辰迅失室實悉審尋心沁-96沈深瀋甚芯諶什十拾雙",
  "氏亞俄兒啞娥峨我牙芽莪蛾衙訝阿雅餓鴉鵝堊岳嶽幄惡愕握樂渥鄂鍔顎鰐齷安岸",
  "按晏案眼雁鞍顔鮟斡謁軋閼唵岩巖庵暗癌菴闇壓押狎鴨仰央怏昻殃秧鴦厓哀埃崖",
  "愛曖涯碍艾隘靄厄扼掖液縊腋額-96櫻罌鶯鸚也倻冶夜惹揶椰爺耶若野弱掠略約",
  "若葯蒻藥躍亮佯兩凉壤孃恙揚攘敭暘梁楊樣洋瀁煬痒瘍禳穰糧羊良襄諒讓釀陽量",
  "養圄御於漁瘀禦語馭魚齬億憶抑檍臆偃堰彦焉言諺孼蘖俺儼嚴奄掩淹嶪業円予余",
  "勵3如廬-96旅歟汝濾璵礖礪與艅茹輿轝閭餘驪3亦力域役易曆歷疫繹譯轢逆驛嚥",
  "堧姸娟宴年延憐戀捐挻撚椽沇沿涎涓淵演漣烟然煙煉燃燕璉硏硯秊筵緣練縯聯衍",
  "軟輦3鉛鍊鳶列3悅涅烈熱裂說閱厭廉3染殮炎焰琰艶苒-96簾閻髥鹽曄獵燁葉令囹",
  "塋寧嶺嶸影怜映暎楹榮永泳渶潁濚瀛瀯煐營獰玲瑛瑩瓔盈穎纓羚聆英詠迎鈴鍈零",
  "霙靈領乂倪例刈叡曳汭濊猊睿穢芮藝蘂禮裔詣譽豫醴銳隸霓預五伍俉傲午吾吳嗚",
  "塢墺奧娛寤悟惡懊敖旿晤梧汚澳-96烏熬獒筽蜈誤鰲鼇屋沃獄玉鈺溫瑥瘟穩縕蘊",
  "兀壅擁瓮甕癰翁邕雍饔渦瓦窩窪臥蛙蝸訛婉完宛梡椀浣玩琓琬碗緩翫脘腕莞豌阮",
  "頑曰往旺枉汪王倭娃歪矮外嵬巍猥畏了僚僥凹堯夭妖姚寥寮尿嶢拗搖撓擾料曜樂",
  "橈燎燿瑤療-96窈窯繇繞耀腰蓼蟯要謠遙遼邀饒慾欲浴縟褥辱俑傭冗勇埇墉容庸",
  "慂榕涌湧溶熔瑢用甬聳茸蓉踊鎔鏞龍于佑偶優又友右宇寓尤愚憂旴牛玗瑀盂祐禑",
  "禹紆羽芋藕虞迂遇郵釪隅雨雩勖彧旭昱栯煜稶郁頊云暈橒殞澐熉耘芸蕓-96運隕",
  "雲韻蔚鬱亐熊雄元原員圓園垣媛嫄寃怨愿援沅洹湲源爰猿瑗苑袁轅遠阮院願鴛月",
  "越鉞位偉僞危圍委威尉慰暐渭爲瑋緯胃萎葦蔿蝟衛褘謂違韋魏乳侑儒兪劉唯喩孺",
  "宥幼幽庾悠惟愈愉揄攸有杻柔柚柳楡楢油洧流游溜-96濡猶猷琉瑜由留癒硫紐維",
  "臾萸裕誘諛諭踰蹂遊逾遺酉釉鍮類六堉戮毓肉育陸倫允奫尹崙淪潤玧胤贇輪鈗閏",
  "律4聿戎瀜絨融隆垠恩慇殷誾銀隱乙吟淫蔭陰音飮揖泣邑凝應膺鷹依倚儀宜意懿",
  "擬椅毅疑矣義艤薏蟻衣誼-96議醫二以伊利吏夷姨履已弛彛怡易4爾珥理異痍痢移",
  "罹而耳肄苡荑裏裡貽貳邇里離飴餌匿溺瀷益翊翌翼謚人仁刃印吝咽因姻寅引忍湮",
  "燐璘絪茵藺蚓認隣靭靷鱗麟一佚佾壹日溢逸鎰馹任壬妊姙恁林淋稔臨荏賃入卄",
  "-96立3仍剩孕芿仔刺咨姉姿子字孜恣慈滋炙煮玆瓷疵磁紫者自茨蔗藉諮資雌作勺",
  "嚼斫昨灼炸爵綽芍酌雀鵲孱棧殘潺盞岑暫潛箴簪蠶雜丈仗匠場墻壯奬將帳庄張掌",
  "暲杖樟檣欌漿牆狀獐璋章粧腸臟臧莊葬蔣薔藏裝贓醬長-96障再哉在宰才材栽梓",
  "渽滓災縡裁財載齋齎爭箏諍錚佇低儲咀姐底抵杵楮樗沮渚狙猪疽箸紵苧菹著藷詛",
  "貯躇這邸雎齟勣吊嫡寂摘敵滴狄炙的積笛籍績翟荻謫賊赤跡蹟迪迹適鏑佃佺傳全",
  "典前剪塡塼奠專展廛悛戰栓殿氈澱-96煎琠田甸畑癲筌箋箭篆纏詮輾轉鈿銓錢鐫",
  "電顚顫餞切截折浙癤竊節絶占岾店漸点粘霑鮎點接摺蝶丁井亭停偵呈姃定幀庭廷",
  "征情挺政整旌晶晸柾楨檉正汀淀淨渟湞瀞炡玎珽町睛碇禎程穽精綎艇訂諪貞鄭酊",
  "釘鉦鋌錠霆靖-96靜頂鼎制劑啼堤帝弟悌提梯濟祭第臍薺製諸蹄醍除際霽題齊俎",
  "兆凋助嘲弔彫措操早晁曺曹朝條棗槽漕潮照燥爪璪眺祖祚租稠窕粗糟組繰肇藻蚤",
  "詔調趙躁造遭釣阻雕鳥族簇足鏃存尊卒拙猝倧宗從悰慫棕淙琮種終綜縱腫-96踪",
  "踵鍾鐘佐坐左座挫罪主住侏做姝胄呪周嗾奏宙州廚晝朱柱株注洲湊澍炷珠疇籌紂",
  "紬綢舟蛛註誅走躊輳週酎酒鑄駐竹粥俊儁准埈寯峻晙樽浚準濬焌畯竣蠢逡遵雋駿",
  "茁中仲衆重卽櫛楫汁葺增憎曾拯烝甑症繒蒸證贈之只-96咫地址志持指摯支旨智",
  "枝枳止池沚漬知砥祉祗紙肢脂至芝芷蜘誌識贄趾遲直稙稷織職唇嗔塵振搢晉晋桭",
  "榛殄津溱珍瑨璡畛疹盡眞瞋秦縉縝臻蔯袗診賑軫辰進鎭陣陳震侄叱姪嫉帙桎瓆疾",
  "秩窒膣蛭質跌迭斟朕什執潗緝輯-96鏶集徵懲澄且侘借叉嗟嵯差次此磋箚茶蹉車",
  "遮捉搾着窄錯鑿齪撰澯燦璨瓚竄簒纂粲纘讚贊鑽餐饌刹察擦札紮僭參塹慘慙懺斬",
  "站讒讖倉倡創唱娼廠彰愴敞昌昶暢槍滄漲猖瘡窓脹艙菖蒼債埰寀寨彩採砦綵菜蔡",
  "采釵冊柵策-96責凄妻悽處倜刺剔尺慽戚拓擲斥滌瘠脊蹠陟隻仟千喘天川擅泉淺",
  "玔穿舛薦賤踐遷釧闡阡韆凸哲喆徹撤澈綴輟轍鐵僉尖沾添甛瞻簽籤詹諂堞妾帖捷",
  "牒疊睫諜貼輒廳晴淸聽菁請靑鯖切剃替涕滯締諦逮遞體初剿哨憔抄招梢-96椒楚",
  "樵炒焦硝礁礎秒稍肖艸苕草蕉貂超酢醋醮促囑燭矗蜀觸寸忖村邨叢塚寵悤憁摠總",
  "聰蔥銃撮催崔最墜抽推椎楸樞湫皺秋芻萩諏趨追鄒酋醜錐錘鎚雛騶鰍丑畜祝竺筑",
  "築縮蓄蹙蹴軸逐春椿瑃出朮黜充忠沖蟲衝衷悴膵萃-96贅取吹嘴娶就炊翠聚脆臭",
  "趣醉驟鷲側仄厠惻測層侈値嗤峙幟恥梔治淄熾痔痴癡稚穉緇緻置致蚩輜雉馳齒則",
  "勅飭親七柒漆侵寢枕沈浸琛砧針鍼蟄秤稱快他咤唾墮妥惰打拖朶楕舵陀馱駝倬卓",
  "啄坼度托拓擢晫柝濁濯琢琸託-96鐸呑嘆坦彈憚歎灘炭綻誕奪脫探眈耽貪塔搭榻",
  "宕帑湯糖蕩兌台太怠態殆汰泰笞胎苔跆邰颱宅擇澤撑攄兎吐土討慟桶洞痛筒統通",
  "堆槌腿褪退頹偸套妬投透鬪慝特闖坡婆巴把播擺杷波派爬琶破罷芭跛頗判坂板版",
  "瓣販辦鈑-96阪八叭捌佩唄悖敗沛浿牌狽稗覇貝彭澎烹膨愎便偏扁片篇編翩遍鞭",
  "騙貶坪平枰萍評吠嬖幣廢弊斃肺蔽閉陛佈包匍匏咆哺圃布怖抛抱捕暴泡浦疱砲胞",
  "脯苞葡蒲袍褒逋鋪飽鮑幅暴曝瀑爆輻俵剽彪慓杓標漂瓢票表豹飇飄驃-96品稟楓",
  "諷豊風馮彼披疲皮被避陂匹弼必泌珌畢疋筆苾馝乏逼下何厦夏廈昰河瑕荷蝦賀遐",
  "霞鰕壑學虐謔鶴寒恨悍旱汗漢澣瀚罕翰閑閒限韓割轄函含咸啣喊檻涵緘艦銜陷鹹",
  "合哈盒蛤閤闔陜亢伉姮嫦巷恒抗杭桁沆港缸肛航-96行降項亥偕咳垓奚孩害懈楷",
  "海瀣蟹解該諧邂駭骸劾核倖幸杏荇行享向嚮珦鄕響餉饗香噓墟虛許憲櫶獻軒歇險",
  "驗奕爀赫革俔峴弦懸晛泫炫玄玹現眩睍絃絢縣舷衒見賢鉉顯孑穴血頁嫌俠協夾峽",
  "挾浹狹脅脇莢鋏頰亨兄刑型-96形泂滎瀅灐炯熒珩瑩荊螢衡逈邢鎣馨兮彗惠慧暳",
  "蕙蹊醯鞋乎互呼壕壺好岵弧戶扈昊晧毫浩淏湖滸澔濠濩灝狐琥瑚瓠皓祜糊縞胡芦",
  "葫蒿虎號蝴護豪鎬頀顥惑或酷婚昏混渾琿魂忽惚笏哄弘汞泓洪烘紅虹訌鴻化和嬅",
  "樺火畵-96禍禾花華話譁貨靴廓擴攫確碻穫丸喚奐宦幻患換歡晥桓渙煥環紈還驩",
  "鰥活滑猾豁闊凰幌徨恍惶愰慌晃晄榥況湟滉潢煌璜皇篁簧荒蝗遑隍黃匯回廻徊恢",
  "悔懷晦會檜淮澮灰獪繪膾茴蛔誨賄劃獲宖橫鐄哮嚆孝效斅曉梟涍淆-96爻肴酵驍",
  "侯候厚后吼喉嗅帿後朽煦珝逅勛勳塤壎焄熏燻薰訓暈薨喧暄煊萱卉喙毁彙徽揮暉",
  "煇諱輝麾休携烋畦虧恤譎鷸兇凶匈洶胸黑昕欣炘痕吃屹紇訖欠欽歆吸恰洽翕興僖",
  "凞喜噫囍姬嬉希憙憘戱晞曦熙熹熺犧禧稀羲詰"]

end BatchAdmin.Text
