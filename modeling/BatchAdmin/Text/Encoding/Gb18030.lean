/-
The characters of GB 18030: the table of its pairs, 190 to a row, and
the ranges of all the others.
-/
import BatchAdmin.Text.Encoding.Table

namespace BatchAdmin.Text

/-- The table of simplified Chinese. -/
def gb18030Table : CharTable := [
  "丂丄3丏丒丗丟3丣並丩丮丯丱丳丵丷丼乀3乄乆乊乑乕乗乚乛乢4乧乨乪6乲乴10",
  "乿7亇亊亐亖亗亙亜3亣亪亯3亴亶4亼3仈仌仏仐仒仚3仠仢仦仧仩仭3仱仴仸3仼仾",
  "伀伂7伋伌伒5伜伝伡伣伨伩伬3伱伳伵伷伹伻伾5佄佅佇6佒佔佖佡佢佦佨佪佫佭",
  "佮佱佲併佷4佽侀3侅3侊侌侎侐侒侓侕侖侘3侜侞侟価侢侤侫侭侰5侶9俀3俆4俋3",
  "俒5俙俛俠俢俤俥俧俫俬俰俲俴4俹俻3俿13倎倐們倓倕3倛倝倞倠倢3倧倫倯11倻",
  "倽倿4偄3偉3偍偐5偖4偛偝8偦6偭9偸3偼偽傁4傆傇傉4傎21傤傦傪傫傭5傳7傼19",
  "僐6僗3僛11僨4僯4僴僶5僼10儈3儌6儓14儢29兂兇兊兌兎3兒兓兗3兛兝5兣兤兦內",
  "兩兪兯兲兺兾兿冃冄円冇冊冋冎4冓冔冘冚冝3冡冣冦5冭冮冴冸3冾冿凁3凅凈凊",
  "凍凎凐凒9凜凞凟凢凣凥6凬凮凱凲凴凷凾刄刅刉刋刌刏刐刓3刜刞刟刡3別3刪刬",
  "刯刱刲刴刵刼刾剄6剋剎剏剒剓剕剗5剝剟剠剢3剦剨剫4剰剱剳10剾劀劃5劉7劑劒",
  "劔7劜劤4劮3労10勀3勄3勈勊勌4勑勓3勗務6勠4勥11勱8勻3匁4匇匉4匎匑4匘匛匜",
  "匞匟匢匤匥匧3匫3匯10匼匽區卂卄卆卋3卐協単卙卛卝卥卨卪卬卭卲卶卹卻4厀厁",
  "厃厇厈厊厎7厖厗厙厛厜厞厠厡厤厧厪4厯7厷4厼3叀參5収3叒叓叕叚叜3叡叢叧叴",
  "叺叾3吂吅吇吋吔吘3吜吢吤吥吪吰吳吶吷吺吽吿呁呂呄呅呇呉呌4呑呚呝5呣呥呧",
  "呩8呴呹呺呾呿咁咃咅咇4咍咑咓咗咘咜咞5咥咮咰咲咵3咹咺咼咾哃哅哊哋哖哘哛",
  "哠5哫哬哯3哴6哻哾唀唂4唈唊5唒唓唕6唜4唡唥唦唨唩唫唭唲唴3唸4唽啀啂啅啇",
  "啈啋5啑4啗5啝4啢啣啨啩啫啯6啹啺啽啿喅喆喌3喐喒喓喕3喚喛喞喠7喨9喲喴営",
  "喸喺喼喿5嗆3嗊嗋嗎3嗕嗗5嗞嗠嗢嗧嗩嗭嗮嗰嗱嗴嗶嗸5嗿嘂6嘊嘋嘍嘐8嘙嘚嘜",
  "嘝嘠3嘥嘦嘨4嘮3嘳嘵嘷嘸嘺嘼3噀12噏5噕噖噚噛噝5噣噥3噭4噲4噷4噽8嚇7嚐3",
  "嚔15嚤11嚰7嚸4嚽13囋9囕囖囘囙囜団囥6囬囮囯囲図囶3囻囼圀3圅圇國17圝圞",
  "圠3圤4圫圱圲圴5圼圽圿坁坃4坈坉坋坒5坘坙坢坣坥坧坬坮坰3坴坵坸3坽5垇4垍5",
  "垔7垜4垥垨垪垬垯3垳垵3垹9埄7埌埍埐埑埓埖埗埛埜埞埡3埥8埮埰4埵3埻埼埾埿",
  "堁堃3堈3堌堎3堒3堖3堚4堟堢堣堥5堫5報4堶14塅7塎3塒塓塕3塙5塟6塦5塭17塿",
  "墂墄墆3墊8墔5墛3墠8墪18墽4壂3壆11壒3壖14壥6壭壯壱売壴壵壷壸壺8夃夅夆",
  "夈5夎夐4夗夘夛夝夞夠4夦夨夬夰夲夳夵夶夻夽4奃奅奆奊奌奍奐奒奓奙奛5奡奣",
  "奤奦13奵奷奺3奾3妅妉妋妌妎4妔妕妘妚4妟4妦妧妬妭妰妱妳6妺妼妽妿7姇3姌4",
  "姕姖姙姛姞5姤姦姧姩3姭12姺姼3娀娂娊娋娍4娒娔4娙3娝娞娡娢娤娦3娪7娳娵",
  "娷5娽3婁5婇婈婋10婖4婛7婣4婨婩婫9婸婹婻4媀18媓7媜14媫7媴媶媷媹5媿嫀嫃6",
  "嫊嫋嫍5嫓嫕嫗嫙3嫝3嫢嫤嫥嫧嫨嫪嫬5嫲23嬊12嬘26嬳嬵嬶嬸8孁15孒孖孞孠孡",
  "孧孨孫孭3孲孴孶4孻孼孾孿宂宆宊宍宎宐3宔宖実宧3宬4宱宲宷宺3寀寁寃寈4寍3",
  "寑寔9寠寢寣實寧審5寯寱7寽対尀専尃尅將專尋4尐尒尓尗尙尛尞4尣尦尨4尭4尲",
  "尳尵3屃屄屆屇屌屍屒3屖3屚4屟屢層屧7屰屲7屻4岀岃5岉3岎岏岒岓岕岝5岤5岪",
  "岮3岲岴岶岹4岾峀峂峃峅6峌6峓6峚7峢峣峧峩峫峬峮峯峱10峼6崄崅崈6崏5崕崗4",
  "崜崝崟5崥崨崪3崯5崵8崿8嵈嵉嵍11嵙嵚嵜嵞11嵪嵭嵮嵰4嵵13嶃22嶚3嶞25嶸13",
  "巆7巎13巜巟巠巣巤巪巬巭巰巵巶巸5巿帀帄帇帉3帍帎帒帓帗帞8帨5帯帰帲5帹帺",
  "帾4幃幆6幍7幖5幜幝幟幠幣15幵幷幹幾庁3庅庈庉庌3庒庘庛庝庡4庨5庮5庴庺4",
  "庿10廋6廔廕廗4廜12廩廫9廵廸廹廻3弅3弉弌3弐弒弔弖弙弚弜3弡4弨弫弬弮弰",
  "弲7弻弽3彁15彑彔彙4彞3彣彥彧彨彫彮彯彲彴3彸彺彽3徃徆徍3徑従徔徖徚徛徝4",
  "徢6復徫徬徯6徶徸4徾5忇忈忊忋忎忓3忚3忞忟忢忣忥忦忨忩忬忯忰忲3忶忷忹忺",
  "忼怇3怋怌怐怑怓怗怘怚怞怟怢3怬3怰5怶5怽怾恀恄7恌恎恏恑恓恔恖3恛恜恞4恥",
  "恦恮恱恲恴恵恷恾悀3悅4悊悋悎4悓悕悗3悜悞悡悢悤悥悧悩悪悮悰悳悵3悹悺悽8",
  "惇3惌5惒3惖惗惙惛惞惡5惪惱惲惵惷惸惻5愂4愇愊3愐5愖4愛4愡愢愥愨3愬19慀8",
  "慉態慍慏慐慒3慖7慞4慣4慩7慱4慶慸19憌憍憏5憕8憞9憪憫憭10憸6憿3懃5應懌5",
  "懓懕17懧14懶9戀6戇戉戓戔戙戜3戠戣戦4戫戭戯4戵戶戸5扂扄3扊扏扐払3扙扚",
  "扜7扤扥扨扱扲扴扵扷扸扺扻扽抁3抅4抋6抔抙抜3抣抦抧抩抪抭4抲3抶3抺抾拀拁",
  "拃拋拏拑拕拝拞拠拡拤拪拫拰拲拵拸4挀挃4挊4挏挐挒4挗3挜挦挧挩挬3挰挱挳6",
  "挻挼挾4捄捇捈捊捑4捖8捠捤3捨捪3捯捰捲4捸捹捼4掁掃4掋掍掑掓3掗掙7採掤掦",
  "掫掯掱掲掵掶掹掻掽掿5揅揇揈揊3揑揓3揗7揟揢揤5揫揬揮4揳揵揷揹4揾搃搄搆5",
  "損搎搑搒搕6搝搟搢4搧3搫搮6搵5搻搼搾摀摂摃摉摋7摓摕3摙5摟8摨摪3摮10摻7",
  "撃撆撈9撓撔撗撘撚4撟5撥4撪撫撯撱4撶撹撻撽3擁擃擄擆7擏擑擓4擙5擟3擣擥",
  "擧25攁8攊8攓5攙12攦5攬攭攰4攷攺攼攽敀5敆敇敊敋敍敎敐敒3敗敘敚敜敟3敤敥",
  "敧4敭3敱敳敵敶數15斈3斍3斒斔3斘斚斝斞斠斢斣斦斨斪斬斮斱8斺斻斾3旂旇4旍",
  "旐旑旓3旘8旡旣旤旪旫旲4旸旹旻5昁昄昅昇3昋昍昐3昖3昚3昞昡4昦昩4昮昰昲昳",
  "昷5昽昿晀時晄7晍晎晐晑晘晙晛4晠晢晣晥晧晩5晱3晵晸晹晻3晿3暃暅暆暈4暍4",
  "暒4暘5暞9暩5暯5暵4暺4暿26曚曞8曧曨曪6曱曵曶書曺曻曽朁7朌朎朏朑3朖朘3朜",
  "朞朠6朧朩朮朰朲朳朶4朻朼朾朿杁杄杅杇杊杋杍杒杔杕杗5杝杢3杦杧杫杬杮東杴",
  "杶杸4杽枀枂枃枅枆枈枊枌4枑4枖枙枛枟3枤枦枩枬枮枱枲枴枹8柂柅10柕3柛柟柡",
  "柣柤柦3柪柫柭柮柲柵8柾栁4栆栍栐栒栔栕栘5栞3栢7栫7栴3栺栻栿桇桋桍桏桒",
  "桖10桪桬8桵桸9梂梄梇8梐3梔3梘10梣3梩4梮梱梲梴梶10棁棃6棊棌棎4棓棔棖棗",
  "棙棛5棡棢棤10棯棲3棶3棻棽4椂3椆5椌椏椑椓12椡3椥8椮椯椱3椵4椺3椾楀楁",
  "楃17楕楖楘楙楛楜楟楡楢楤楥楧4楬業楯楰楲5楺楻楽3榁榃榅榊3榎6榖榗榙榚",
  "榝10榩榪榬榮3榲榳榵榶榸3榼5槂8構槍槏槑3槕6槜3槡12槮4槳10槾樀10樋12標6",
  "樠樢6権樫4樰樲3樶7樿5橅橆橈8橑7橚橜5橢3橦11橲7橺橻橽3檁3檅9檏檒5檘8檡8",
  "檪檭115欥欦欨10欳4欸欻3欿4歄歅歈歊歋歍12歚8歨歩歫14歺歽4殅殈殌殎4殔殕",
  "殗3殜5殢8殫8殶殸7毀毃毄毆5毌毎毐毑毘毚毜5毢8毬3毰3毴毶3毺3毾7氈5氎氒気",
  "氜3氠氣氥氫3氱氳氶氷氹4氾氿汃3汈汋5汑3汖汘3汢汣汥3汫5汱汳汵汷汸決3汿沀",
  "沄沇沊沋沍沎沑沒沕4沚沜3沠沢沨沬沯沰沴4沺泀4泆3泋泍3泑泒泘3泜泝泟泤泦",
  "泧泩泬泭泲泴泹泿洀洂洃洅洆洈3洍洏3洓4洘洜洝洟6洦洨洩洬洭洯洰洴洶3洺洿",
  "浀浂浄浉浌浐浕4浛浝浟浡浢浤浥浧浨浫3浰4浵浶浹3浽5涃涄涆涇涊涋涍涏涐涒",
  "涖5涜涢涥涬涭涰涱涳涴涶涷涹6淁3淈3淍4淒4淗淚3淟淢淣淥淧4淭淯淰淲淴3淸",
  "淺淽8渆4渋渏渒渓渕渘渙減渜渞渟渢渦3渪測渮渰渱渳渵3渹渻8湅8湏4湕湗湙湚",
  "湜3湠11湬湭湯15満3溄溇溈溊5溑7溙3溝溞溠溡溣溤溦溨溩溫4溰溳溵溸溹溼溾3",
  "滃4滈3滌3滐滒滖滘滙滛3滣滧滪10滵4滺8漃3漇漈漊5漐3漖10漡3漥4漬漮漰漲漴",
  "漵漷7漿7潈3潌潎10潙3潝潟3潣3潧6潯3潳潵3潹潻潽7澅3澊澋澏13澝4澢5澨11澴",
  "澵澷澸澺6濁濃6濊7濓11濟濢12濰33瀒8瀜7瀤17瀶3瀺18灍灎灐14灟12灮灱4灷灹3",
  "災炁4炆3炋3炏3炓炗炘炚炛炞13炰炲炴3為炾炿烄4烉烋13烚烜3烠4烥烪烮烰7烸",
  "烺3烾11焋5焑焒焔焗焛11焧8焲4焷14煆4煋煍煏13煝煟5煥煩5煯3煴4煹煻煼煾6",
  "熅5熋4熐4熕3熚5熡7熩3熭6熴熶3熺9燄10燏5燖10燡4燦燨6燯10燺12爇22爞10爩",
  "爫爭3爲3爺爼爾牀7牉3牎4牓3牗牘牚牜牞牠牣3牨牪4牰牱牳牴牶3牻3犂犃犅5犌",
  "犎犐犑犓12犠12犮犱3犵犺7狅3狉4狏狑狓4狘狚狛\ue4c696\u30003·ˉˇ¨〃々",
  "—～‖…‘’“”〔〕〈8〖〗【】±×÷∶∧∨∑∏∪∩∈∷√⊥∥∠⌒⊙∫",
  "∮≡≌≈∽∝≠≮≯≤≥∞∵∴♂♀°′″℃＄¤￠￡‰§№☆★○●◎◇◆□",
  "■△▲※→←↑↓〓\ue52696ⅰ10\ue7666⒈20⑴20①10€\ue76d㈠10\ue76e",
  "\ue76fⅠ12\ue770\ue771\ue58695\u3000！3￥％89￣\ue5e696ぁ83\ue77211",
  "\ue64696ァ86\ue77d8\ue6a696Α17Σ7\ue7858α17σ7︐︒︑︓4︵︶︹︺︿﹀",
  "︽︾﹁4︗︘︻︼︷︸︱︙︳︴\ue7979\ue70696А6ЁЖ26\ue7a015а6ёж26",
  "\ue7af13ˊˋ˙–―‥‵℅℉↖4∕∟∣≒≦≧⊿═36▁15▓3▼▽◢4☉⊕〒〝",
  "〞\ue7bc11āáǎàēéěèīíǐìōóǒòūúǔùǖǘǚǜüêɑḿńňǹ",
  "ɡ\ue7c94ㄅ37\ue7cd21〡9㊣㎎㎏㎜3㎡㏄㏎㏑㏒㏕︰￢￤\ue7e2℡㈱\ue7e3‐",
  "\ue7e43ー゛゜ヽヾ〆ゝゞ﹉10﹔4﹙14﹨4〾⿰12〇\ue7f413─76\ue80115狜狝",
  "狟狢6狪狫狵狶狹狽4猂猄6猋3猏4猔猘3猟猠猣猤猦3猭猯猰猲猳猵猶猺4獀13獎獏",
  "獑獓4獘8獡11獮獰獱\ue00094獲12獿5玅玆玈玊玌玍玏玐玒4玗4玜3玠玡玣6玪玬",
  "玭玱玴3玸玹玼4珁珃5珋珌珎珒7珚4珟珡4珦珨珪3珮4珳5\ue05e94珸11琄琇琈琋4",
  "琑9琜6琣琤琧琩琫琭琯琱琲琷5琽4瑂19瑖瑘瑝瑠13瑮瑯瑱5瑸3\ue0bc94瑻3瑿璂",
  "璄3璈3璌璍璏璑11璝璟8璪16璻23瓓9瓝瓟瓡瓥瓧7瓰3\ue11a94瓳瓵瓸7甀4甅8甎",
  "甐甒甔4甛甝甞甠5甦甧甪甮甴甶甹甼甽甿畁4畆畇畉畊畍畐4畕4畝8畧3畫7畳畵3",
  "畺5疀3疄疅疇\ue17894疈3疌3疐疓疕疘疛疜疞疢疦5疭疶疷疺疻疿3痆痋痌痎4痓",
  "痗痙痚痜痝痟3痥痩痬4痲痳痵4痺痻痽痾瘂瘄瘆4瘋瘍3瘑4瘖瘚瘜3瘡瘣瘧瘨瘬瘮",
  "瘯瘱瘲瘶瘷瘹3瘽癁療癄\ue1d694癅7癎6癕癗5癝癟4癤7癬3癰8癹発發癿3皃皅皉",
  "皊皌皍皏皐皒皔皕皗皘皚10皥9皯皰皳皵10盀盁盃啊阿埃挨哎唉哀皑癌蔼矮艾碍",
  "爱隘鞍氨安俺按暗岸胺案肮昂盎凹敖熬翱袄傲奥懊澳芭捌扒叭吧笆八疤巴拔跋靶",
  "把耙坝霸罢爸白柏百摆佰败拜稗斑班搬扳般颁板版扮拌伴瓣半办绊邦帮梆榜膀绑",
  "棒磅蚌镑傍谤苞胞包褒剥盄盇盉盋盌盓盕盙盚盜3盠5盦8盰盳盵3盺盻盽盿眀眂眃",
  "眅眆眊県眎11眛4眡眣3眧眪3眮眰5眹眻眽3睂睄3睈8睒8睜薄雹保堡饱宝抱报暴豹",
  "鲍爆杯碑悲卑北辈背贝钡倍狈备惫焙被奔苯本笨崩绷甭泵蹦迸逼鼻比鄙笔彼碧蓖",
  "蔽毕毙毖币庇痹闭敝弊必辟壁臂避陛鞭边编贬扁便变卞辨辩辫遍标彪膘表鳖憋别",
  "瘪彬斌濒滨宾摈兵冰柄丙秉饼炳睝4睤睧睩睪睭12睺3瞁3瞆6瞏瞐瞓12瞡瞣瞤瞦瞨",
  "瞫瞭3瞱瞲瞴瞶5瞼瞾矀13矎9矘3矝5矤病并玻菠播拨钵波博勃搏铂箔伯帛舶脖膊",
  "渤泊驳捕卜哺补埠不布步簿部怖擦猜裁材才财睬踩采彩菜蔡餐参蚕残惭惨灿苍舱",
  "仓沧藏操糙槽曹草厕策侧册测层蹭插叉茬茶查碴搽察岔差诧拆柴豺搀掺蝉馋谗缠",
  "铲产阐颤昌猖矦矨矪矯4矴矵矷矹4砃6砊砋砎3砓砕砙砛砞砠3砤砨砪砫砮砯砱3砵",
  "砶砽砿硁4硆硈4硍硏硑硓硔硘5硞12硯8硸4硽7场尝常长偿肠厂敞畅唱倡超抄钞朝",
  "嘲潮巢吵炒车扯撤掣彻澈郴臣辰尘晨忱沉陈趁衬撑称城橙成呈乘程惩澄诚承逞骋",
  "秤吃痴持匙池迟弛驰耻齿侈尺赤翅斥炽充冲虫崇宠抽酬畴踌稠愁筹仇绸瞅丑臭初",
  "出橱厨躇锄雏滁除楚碄3碈碊碋碏碐碒碔3碙碝碞碠碢碤碦碨8碵4確4碿磀磂3磆3",
  "磌4磑3磖3磚14磩3磭5磳磵磶磸磹磻6礂3礆7础储矗搐触处揣川穿椽传船喘串疮窗",
  "幢床闯创吹炊捶锤垂春椿醇唇淳纯蠢戳绰疵茨磁雌辞慈瓷词此刺赐次聪葱囱匆从",
  "丛凑粗醋簇促蹿篡窜摧崔催脆瘁粹淬翠村存寸磋撮搓措挫错搭达答瘩打大呆歹傣",
  "戴带殆代贷袋待逮礍6礔10礟5礥15礵5礽礿祂4祇祊9祔祕祘祙祡祣祤祦祩4祮祰7",
  "祹祻5禂禃禆4禋4禐3怠耽担丹单郸掸胆旦氮但惮淡诞弹蛋当挡党荡档刀捣蹈倒岛",
  "祷导到稻悼道盗德得的蹬灯登等瞪凳邓堤低滴迪敌笛狄涤翟嫡抵底地蒂第帝弟递",
  "缔颠掂滇碘点典靛垫电佃甸店惦奠淀殿碉叼雕凋刁掉吊钓调跌爹碟蝶迭谍叠禓7",
  "禛12禨11禴5禼禿秂秄秅秇秈秊秌秎3秓秔秖秗秙6秠3秥秨秪秬秮秱7秹秺秼秾秿",
  "稁稄稅稇4稌稏5稕稖稘稙稛稜丁盯叮钉顶鼎锭定订丢东冬董懂动栋侗恫冻洞兜抖",
  "斗陡豆逗痘都督毒犊独读堵睹赌杜镀肚度渡妒端短锻段断缎堆兑队对墩吨蹲敦顿",
  "囤钝盾遁掇哆多夺垛躲朵跺舵剁惰堕蛾峨鹅俄额讹娥恶厄扼遏鄂饿恩而儿耳尔饵",
  "洱二稝稟稡稢稤15稴3稸稺稾穀6穇10穒5穘24穱3穵穻4窂窅窇窉4窎3窓窔窙3窞窡",
  "窢贰发罚筏伐乏阀法珐藩帆番翻樊矾钒繁凡烦反返范贩犯饭泛坊芳方肪房防妨仿",
  "访纺放菲非啡飞肥匪诽吠肺废沸费芬酚吩氛分纷坟焚汾粉奋份忿愤粪丰封枫蜂峰",
  "锋风疯烽逢冯缝讽奉凤佛否夫敷肤孵扶拂辐幅氟符伏俘服窣窤窧窩3窮5窴11竀11",
  "竌10竗竘竚4竡竢竤竧6竮竰9竻竼竾笀3笅笇笉笌3笐笒笓笖3笚笜笝笟笡3笧笩笭",
  "浮涪福袱弗甫抚辅俯釜斧脯腑府腐赴副覆赋复傅付阜父腹负富讣附妇缚咐噶嘎该",
  "改概钙盖溉干甘杆柑竿肝赶感秆敢赣冈刚钢缸肛纲岗港杠篙皋高膏羔糕搞镐稿告",
  "哥歌搁戈鸽胳疙割革葛格蛤阁隔铬个各给根跟耕更庚羹笯笰笲笴4笹笻笽笿6筆筈",
  "筊筍筎筓筕筗筙筜筞筟筡筣11筯筰筳筴筶筸筺筼筽筿箁4箆7箎箏箑3箖箘4箞3箣3",
  "箮3箲箳箵3箹8篂3埂耿梗工攻功恭龚供躬公宫弓巩汞拱贡共钩勾沟苟狗垢构购够",
  "辜菇咕箍估沽孤姑鼓古蛊骨谷股故顾固雇刮瓜剐寡挂褂乖拐怪棺关官冠观管馆罐",
  "惯灌贯光广逛瑰规圭硅归龟闺轨鬼诡癸桂柜跪贵刽辊滚棍锅郭国果裹过哈篅篈4",
  "篍4篒篔5篛篜篞3篢3篧3篫3篯篰篲5篸4篽篿8簈3簍簎簐6簗8簠6簨簩簫13簹6籂骸",
  "孩海氦亥害骇酣憨邯韩含涵寒函喊罕翰撼捍旱憾悍焊汗汉夯杭航壕嚎豪毫郝好耗",
  "号浩呵喝荷菏核禾和何合盒貉阂河涸赫褐鹤贺嘿黑痕很狠恨哼亨横衡恒轰哄烘虹",
  "鸿洪宏弘红喉侯猴吼厚候后呼乎忽瑚壶葫胡蝴狐糊湖籃10籎37籵6籾11粊7粓粔粖",
  "粙3粠粡粣粦4粫3粯粰粴5粺粻弧虎唬护互沪户花哗华猾滑画划化话槐徊怀淮坏欢",
  "环桓还缓换患唤痪豢焕涣宦幻荒慌黄磺蝗簧皇凰惶煌晃幌恍谎灰挥辉徽恢蛔回毁",
  "悔慧卉惠晦贿秽会烩汇讳诲绘荤昏婚魂浑混豁活伙火获或惑霍货祸击圾基机畸稽",
  "积箕粿糀糂3糆糉糋糎7糘糚糛糝糞糡7糩6糰8糹糺糼14紋21紡紣4紨3紬3細7肌饥",
  "迹激讥鸡姬绩缉吉极棘辑籍集及急疾汲即嫉级挤几脊己蓟技冀季伎祭剂悸济寄寂",
  "计记既忌际妓继纪嘉枷夹佳家加荚颊贾甲钾假稼价架驾嫁歼监坚尖笺间煎兼肩艰",
  "奸缄茧检柬碱硷拣捡简俭剪减荐槛鉴践贱见键箭件紷55絯8絸33健舰剑饯渐溅涧",
  "建僵姜将浆江疆蒋桨奖讲匠酱降蕉椒礁焦胶交郊浇骄娇嚼搅铰矫侥脚狡角饺缴绞",
  "剿教酵轿较叫窖揭接皆秸街阶截劫节桔杰捷睫竭洁结解姐戒藉芥界借介疥诫届巾",
  "筋斤金今津襟紧锦仅谨进靳晋禁近烬浸継13綧7綯76尽劲荆兢茎睛晶鲸京惊精粳",
  "经井警景颈静境敬镜径痉靖竟竞净炯窘揪究纠玖韭久灸九酒厩救旧臼舅咎就疚鞠",
  "拘狙疽居驹菊局咀矩举沮聚拒据巨具距踞锯俱句惧炬剧捐鹃娟倦眷卷绢撅攫抉掘",
  "倔爵觉决诀绝均菌钧军君峻緻64縼5繂5繈22俊竣浚郡骏喀咖卡咯开揩楷凯慨刊堪",
  "勘坎砍看康慷糠扛抗亢炕考拷烤靠坷苛柯棵磕颗科壳咳可渴克刻客课肯啃垦恳坑",
  "吭空恐孔控抠口扣寇枯哭窟苦酷库裤夸垮挎跨胯块筷侩快宽款匡筐狂框矿眶旷况",
  "亏盔岿窥葵奎魁傀繞36纃24纜3纮纴纻纼绖绤绬绹缊缐缞缷缹缻7罃罆10罒罓馈愧",
  "溃坤昆捆困括扩廓阔垃拉喇蜡腊辣啦莱来赖蓝婪栏拦篮阑兰澜谰揽览懒缆烂滥琅",
  "榔狼廊郎朗浪捞劳牢老佬姥酪烙涝勒乐雷镭蕾磊累儡垒擂肋类泪棱楞冷厘梨犁黎",
  "篱狸离漓理李里鲤礼莉荔吏栗丽厉励砾历利傈例俐罖罙罛4罠罣5罫3罯罰罳罵4",
  "罺4罿羀羂8羋羍羏5羕5羛羜羠羢羣羥羦羨7羱羳5羺羻羾翀翂3翆4翋翍翏5翖翗翙6",
  "翢翣痢立粒沥隶力璃哩俩联莲连镰廉怜涟帘敛脸链恋炼练粮凉梁粱良两辆量晾亮",
  "谅撩聊僚疗燎寥辽潦了撂镣廖料列裂烈劣猎琳林磷霖临邻鳞淋凛赁吝拎玲菱零龄",
  "铃伶羚凌灵陵岭领另令溜琉榴硫馏留刘瘤流柳六龙聋咙笼窿翤翧翨翪4翯翲翴7",
  "翽3耂耇4耎耏耑耓耚耛耝3耡耣耤耫6耲耴耹耺耼耾聀聁聄聅聇3聎4聓聕3聙聛14",
  "聫6聲12隆垄拢陇楼娄搂篓漏陋芦卢颅庐炉掳卤虏鲁麓碌露路赂鹿潞禄录陆戮驴",
  "吕铝侣旅履屡缕虑氯律率滤绿峦挛孪滦卵乱掠略抡轮伦仑沦纶论萝螺罗逻锣箩骡",
  "裸落洛骆络妈麻玛码蚂马骂嘛吗埋买麦卖迈脉瞒馒蛮满蔓曼慢漫聾肁肂肅肈肊",
  "肍6肔肕肗肙肞肣肦3肬肰肳肵肶肸肹肻胅胇5胏7胘胟胠胢胣胦胮胵胷胹胻胾4脃3",
  "脇脈脋脌脕脗脙脛3脟13脭脮脰脳3脷脹5脿谩芒茫盲氓忙莽猫茅锚毛矛铆卯茂冒",
  "帽貌贸么玫枚梅酶霉煤没眉媒镁每美昧寐妹媚门闷们萌蒙檬盟锰猛梦孟眯醚靡糜",
  "迷谜弥米秘觅泌蜜密幂棉眠绵冕免勉娩缅面苗描瞄藐秒渺庙妙蔑灭民抿皿敏悯闽",
  "明螟鸣铭名命谬摸腀6腇腉腍3腒腖3腛5腡4腦腨腪3腯腲腳腵4膁膃5膉膋4膐膒6膙",
  "膚膞5膤膥膧膩膫8膴6膼4臄臅臇3臋臍7摹蘑模膜磨摩魔抹末莫墨默沫漠寞陌谋牟",
  "某拇牡亩姆母墓暮幕募慕木目睦牧穆拿哪呐钠那娜纳氖乃奶耐奈南男难囊挠脑恼",
  "闹淖呢馁内嫩能妮霓倪泥尼拟你匿腻逆溺蔫拈年碾撵捻念娘酿鸟尿捏聂孽啮镊镍",
  "涅您柠狞凝宁臔15臤3臨臩臫臮5臵6臽臿舃與5舎舏舑舓舕6舝舠舤4舩舮舲舺舼舽",
  "舿5艅艆艈艊艌3艐8艙艛4艠8艩拧泞牛扭钮纽脓浓农弄奴努怒女暖虐疟挪懦糯诺",
  "哦欧鸥殴藕呕偶沤啪趴爬帕怕琶拍排牌徘湃派攀潘盘磐盼畔判叛乓庞旁耪胖抛咆",
  "刨炮袍跑泡呸胚培裴赔陪配佩沛喷盆砰抨烹澎彭蓬棚硼篷膨朋鹏捧碰坯砒霹批披",
  "劈琵毗艪4艱艵4艻艼芀芁芃芅3芉芌芐芓4芚芛芞芠芢芣芧芲芵芶芺3芿苀苂苃苅",
  "苆苉苐苖苙苚苝苢苧4苬3苰苲苳苵苶苸苺苼5茊茋茍茐茒茓茖茘茙茝10茩茪茮茰",
  "茲茷茻茽啤脾疲皮匹痞僻屁譬篇偏片骗飘漂瓢票撇瞥拼频贫品聘乒坪苹萍平凭瓶",
  "评屏坡泼颇婆破魄迫粕剖扑铺仆莆葡菩蒲埔朴圃普浦谱曝瀑期欺栖戚妻七凄漆柒",
  "沏其棋奇歧畦崎脐齐旗祈祁骑起岂乞企启契砌器气迄弃汽泣讫掐茾茿荁荂荄荅荈",
  "荊5荓荕5荝荢荰7荹荺荾7莇莈莊4莏3莔4莙莚莝莟莡7莬4莵莻莾莿菂3菆菈菉菋菍",
  "菎菐4菕菗菙3菞菢3菦3菫3恰洽牵扦钎铅千迁签仟谦乾黔钱钳前潜遣浅谴堑嵌欠",
  "歉枪呛腔羌墙蔷强抢橇锹敲悄桥瞧乔侨巧鞘撬翘峭俏窍切茄且怯窃钦侵亲秦琴勤",
  "芹擒禽寝沁青轻氢倾卿清擎晴氰情顷请庆琼穷秋丘邱球求囚酋泅趋区蛆曲躯屈驱",
  "渠菮華菳5菺3菾3萂萅萇4萐萒6萙3萞6萩8萲6萹3萾8葇10葒5葘葝4葢葤5葪葮3葲",
  "葴葷葹葻葼取娶龋趣去圈颧权醛泉全痊拳犬券劝缺炔瘸却鹊榷确雀裙群然燃冉染",
  "瓤壤攘嚷让饶扰绕惹热壬仁人忍韧任认刃妊纫扔仍日戎茸蓉荣融熔溶容绒冗揉柔",
  "肉茹蠕儒孺如辱乳汝入褥软阮蕊瑞锐闰润若弱撒洒萨腮鳃塞赛三叁葽5蒃4蒊蒍",
  "蒏8蒘蒚蒛蒝4蒢13蒰蒱蒳蒵3蒻蒼蒾蓀蓂蓃蓅4蓋蓌蓎蓏蓒蓔蓕蓗6蓞蓡蓢蓤蓧5",
  "蓭3蓱11蓽蓾蔀3伞散桑嗓丧搔骚扫嫂瑟色涩森僧莎砂杀刹沙纱傻啥煞筛晒珊苫杉",
  "山删煽衫闪陕擅赡膳善汕扇缮墒伤商赏晌上尚裳梢捎稍烧芍勺韶少哨邵绍奢赊蛇",
  "舌舍赦摄射慑涉社设砷申呻伸身深娠绅神沈审婶甚肾慎渗声生甥牲升绳蔃9蔍4蔒",
  "蔔3蔘蔙蔛4蔠蔢9蔭10蔾5蕄4蕋11蕗蕘蕚4蕟5蕥3蕩9蕳蕵4蕼蕽蕿3省盛剩胜圣师",
  "失狮施湿诗尸虱十石拾时什食蚀实识史矢使屎驶始式示士世柿事拭誓逝势是嗜噬",
  "适仕侍释饰氏市恃室视试收手首守寿授售受瘦兽蔬枢梳殊抒输叔舒淑疏书赎孰熟",
  "薯暑曙署蜀黍鼠属术述树束戍竖墅庶数漱薂薃薆薈7薐11薝7薥3薩薫3薱6薸薺7",
  "藂7藊5藑藒藔藖6藝7藥4藪15恕刷耍摔衰甩帅栓拴霜双爽谁水睡税吮瞬顺舜说硕",
  "朔烁斯撕嘶思私司丝死肆寺嗣四伺似饲巳松耸怂颂送宋讼诵搜艘擞嗽苏酥俗素速",
  "粟僳塑溯宿诉肃酸蒜算虽隋随绥髓碎岁穗遂隧祟孙损笋蓑梭唆缩琐索锁所塌他它",
  "她塔藹藺藼3蘀5蘆11蘒4蘗16蘨蘪14蘹3蘽16虒虓處5虛3號3虣8獭挞蹋踏胎苔抬台",
  "泰酞太态汰坍摊贪瘫滩坛檀痰潭谭谈坦毯袒碳探叹炭汤塘搪堂棠膛唐糖倘躺淌趟",
  "烫掏涛滔绦萄桃逃淘陶讨套特藤腾疼誊梯剔踢锑提题蹄啼体替嚏惕涕剃屉天添填",
  "田甜恬舔腆挑条迢眺跳贴铁帖厅听烃虭虯虰虲7蚃7蚎5蚔蚖6蚞5蚥蚦蚫蚭蚮蚲蚳",
  "蚷3蚻5蛁3蛅蛈蛌蛍蛒蛓蛕3蛚蛜蛝蛠4蛥4蛪3蛯蛵3蛺4蛿蜁蜄3蜋蜌蜎4蜔蜖汀廷",
  "停亭庭挺艇通桐酮瞳同铜彤童桶捅筒统痛偷投头透凸秃突图徒途涂屠土吐兔湍团",
  "推颓腿蜕褪退吞屯臀拖托脱鸵陀驮驼椭妥拓唾挖哇蛙洼娃瓦袜歪外豌弯湾玩顽丸",
  "烷完碗挽晚皖惋宛婉万腕汪王亡枉网往旺望忘妄威蜙蜛蜝蜟蜠蜤蜦3蜪4蜯蜰蜲蜳",
  "蜵蜶蜸3蜼蜽蝀7蝊蝋蝍蝏4蝔3蝘蝚6蝡蝢蝦8蝯蝱3蝵蝷4蝿3螄螆螇螉螊螌螎5螔3",
  "螘7螠5巍微危韦违桅围唯惟为潍维苇萎委伟伪尾纬未蔚味畏胃喂魏位渭谓尉慰卫",
  "瘟温蚊文闻纹吻稳紊问嗡翁瓮挝蜗涡窝我斡卧握沃巫呜钨乌污诬屋无芜梧吾吴毋",
  "武五捂午舞伍侮坞戊雾晤物勿务悟误昔熙析西硒矽晰嘻吸锡牺螥3螩螪螮螰3螴",
  "螶4螻螼螾螿蟁5蟇3蟌5蟔7蟜4蟡4蟦4蟫3蟯10蟺4蟿4蠄6蠋8蠔蠗4蠜5蠣稀息希悉",
  "膝夕惜熄烯溪汐犀檄袭席习媳喜铣洗系隙戏细瞎虾匣霞辖暇峡侠狭下厦夏吓掀锨",
  "先仙鲜纤咸贤衔舷闲涎弦嫌显险现献县腺馅羡宪陷限线相厢镶香箱襄湘乡翔祥详",
  "想响享项巷橡像向象萧硝霄削哮嚣销消宵淆晓蠤14蠳6蠺蠻蠽3衁3衆6衎6衕衖衘",
  "衚7衦衧衪衭衯衱衳4衸5袀袃袆袇袉袊袌袎4袓3袗5袝5袣袥6小孝校肖啸笑效楔些",
  "歇蝎鞋协挟携邪斜胁谐写械卸蟹懈泄泻谢屑薪芯锌欣辛新忻心信衅星腥猩惺兴刑",
  "型形邢行醒幸杏性姓兄凶胸匈汹雄熊休修羞朽嗅锈秀袖绣墟戌需虚嘘须徐许蓄酗",
  "叙旭序畜恤絮婿绪续轩喧宣悬旋玄袬袮3袲5袸4袽4裃裄裇裈裊4裏3裓裖裗裚5裠",
  "裡裦裧裩7裲裵3裺裻製裿3褃7褋5褑褔5褜5褢3褦4褬4褱3褵褷选癣眩绚靴薛学穴",
  "雪血勋熏循旬询寻驯巡殉汛训讯逊迅压押鸦鸭呀丫芽牙蚜崖衙涯雅哑亚讶焉咽阉",
  "烟淹盐严研蜒岩延言颜阎炎沿奄掩眼衍演艳堰燕厌砚雁唁彦焰宴谚验殃央鸯秧杨",
  "扬佯疡羊洋阳氧仰痒养样漾邀腰妖瑶褸9襂襃襅25襠6襧20襼3覀覂覄覅覇27摇尧",
  "遥窑谣姚咬舀药要耀椰噎耶爷野冶也页掖业叶曳腋夜液一壹医揖铱依伊衣颐夷遗",
  "移仪胰疑沂宜姨彝椅蚁倚已乙矣以艺抑易邑屹亿役臆逸肄疫亦裔意毅忆义益溢诣",
  "议谊译异翼翌绎茵荫因殷音阴姻吟银淫寅饮尹引隐覢31觃觍觓3觗3觛觝觟4觤觧4",
  "觬3觰3觴12訁6計22印英樱婴鹰应缨莹萤营荧蝇迎赢盈影颖硬映哟拥佣臃痈庸雍",
  "踊蛹咏泳涌永恿勇用幽优悠忧尤由邮铀犹油游酉有友右佑釉诱又幼迂淤于盂榆虞",
  "愚舆余俞逾鱼愉渝渔隅予娱雨与屿禹宇语羽玉域芋郁吁遇喻峪御愈欲狱育誉訞32",
  "訿9詉48詺7浴寓裕预豫驭鸳渊冤元垣袁原援辕园员圆猿源缘远苑愿怨院曰约越跃",
  "钥岳粤月悦阅耘云郧匀陨允运蕴酝晕韵孕匝砸杂栽哉灾宰载再在咱攒暂赞赃脏葬",
  "遭糟凿藻枣早澡蚤躁噪造皂灶燥责择则泽贼怎增憎曾赠扎喳渣札轧誁8誋8誔80铡",
  "闸眨栅榨咋乍炸诈摘斋宅窄债寨瞻毡詹粘沾盏斩辗崭展蘸栈占战站湛绽樟章彰漳",
  "张掌涨杖丈帐账仗胀瘴障招昭找沼赵照罩兆肇召遮折哲蛰辙者锗蔗这浙珍斟真甄",
  "砧臻贞针侦枕疹诊震振镇阵蒸挣睁征狰争怔整拯正政諤35謈30謧31帧症郑证芝枝",
  "支吱蜘知肢脂汁之织职直植殖执值侄址指止趾只旨纸志挚掷至致置帜峙制智秩稚",
  "质炙痔滞治窒中盅忠钟衷终种肿重仲众舟周州洲诌粥轴肘帚咒皱宙昼骤珠株蛛朱",
  "猪诸诛逐竹烛煮拄瞩嘱主著柱助蛀贮铸筑譆32譧5譭51讬讱讻诇诐诪谉谞住注祝",
  "驻抓爪拽专砖转撰赚篆桩庄装妆撞壮状椎锥追赘坠缀谆准捉拙卓桌琢茁酌啄着灼",
  "浊兹咨资姿滋淄孜紫仔籽滓子自渍字鬃棕踪宗综总纵邹走奏揍租足卒族祖诅阻组",
  "钻纂嘴醉最罪尊遵昨左佐柞做作坐座\ue8105谸9豂4豈豊豋豍8豖4豛6豣7豬7豴4",
  "豻7貃貄貆3貋貍7貕3貙21亍丌兀丐廿卅丕亘丞鬲孬噩丨禺丿匕乇夭爻卮氐囟胤馗",
  "毓睾鼗丶亟鼐乜乩亓芈孛啬嘏仄厍厝厣厥厮靥赝匚叵匦匮匾赜卦卣刂刈刎刭刳刿",
  "剀剌剞剡剜蒯剽劂劁劐劓冂罔亻仃仉仂仨仡仫仞伛仳伢佤仵伥伧伉伫佞佧攸佚佝",
  "貮96佟佗伲伽佶佴侑侉侃侏佾佻侪佼侬侔俦俨俪俅俚俣俜俑俟俸倩偌俳倬倏倮倭",
  "俾倜倌倥倨偾偃偕偈偎偬偻傥傧傩傺僖儆僭僬僦僮儇儋仝氽佘佥俎龠汆籴兮巽黉",
  "馘冁夔勹匍訇匐凫夙兕亠兖亳衮袤亵脔裒禀嬴蠃羸冫冱冽冼贎15贠赑赒赗赟赥",
  "赨3赬赮赯赱赲赸9趂趃趆4趌5趒趓趕10趠3趤13趲趶趷趹趻趽跀3跅跇4跍跐跒3凇",
  "冖冢冥讠讦讧讪讴讵讷诂诃诋诏诎诒3诖诘诙诜诟诠诤诨诩诮诰诳诶诹诼诿谀谂",
  "谄谇谌谏谑谒谔3谙谛谘谝谟3谥谧谪谫谮谯谲谳谵谶卩卺阝阢阡阱阪阽阼陂陉陔",
  "陟陧陬陲陴隈隍隗隰邗邛邝邙邬邡邴邳邶邺跕跘跙跜跠3跥3跩跭跮跰3跴跶跼跾7",
  "踆3踋踍踎踐4踕8踠踡踤5踫踭踰踲3踶3踻踼踾踿蹃蹅蹆蹌5蹓6蹚12蹧蹨蹪蹫蹮蹱",
  "邸邰郏郅邾郐郄郇郓郦郢郜郗郛郫郯郾鄄鄢鄞鄣鄱鄯鄹酃酆刍奂劢劬劭劾哿勐勖",
  "勰叟燮矍廴凵凼鬯厶弁畚巯坌垩垡塾墼壅壑圩圬圪圳圹圮圯坜圻坂坩垅坫垆坼坻",
  "坨坭坶坳垭垤垌垲埏垧垴垓垠埕埘埚埙埒垸埴埯埸埤埝蹳蹵蹷5蹽蹾躀躂3躆躈7",
  "躑3躕7躝躟12躭躮躰躱躳7躻19軏22堋堍埽埭堀堞堙塄堠塥塬墁墉墚墀馨鼙懿艹",
  "艽艿芏芊芨芄芎芑芗芙芫芸芾芰苈苊苣芘芷芮苋苌苁芩芴芡芪芟苄苎芤苡茉苷苤",
  "茏茇苜苴苒苘茌苻苓茑茚茆茔茕苠苕茜荑荛荜茈莒茼茴茱莛荞茯荏荇荃荟荀茗荠",
  "茭茺茳荦荥軥96荨茛荩荬荪荭荮莰荸莳莴莠莪莓莜莅荼莶莩荽莸荻莘莞莨莺莼菁",
  "萁菥菘堇萘萋菝菽菖萜萸萑萆菔菟萏萃菸菹菪菅菀萦菰菡葜葑葚葙葳蒇蒈葺蒉葸",
  "萼葆葩葶蒌蒎萱葭蓁蓍蓐蓦蒽蓓蓊蒿蒺蓠蒡蒹蒴蒗蓥蓣蔌甍蔸蓰蔹蔟蔺轅33轪辀",
  "辌辒辝辠3辤4辪辬4農4辷辸辺3辿迀迃迆迉5迏迒迖迗迚迠迡迣迧迬迯迱迲迴3迺3",
  "迾迿逇逈逌逎逓逕逘蕖蔻蓿蓼蕙蕈蕨蕤蕞蕺瞢蕃蕲蕻薤薨薇薏蕹薮薜薅薹薷薰藓",
  "藁藜藿蘧蘅蘩蘖蘼廾弈夼奁耷奕奚奘匏尢尥尬尴扌扪抟抻拊拚拗拮挢拶挹捋捃掭",
  "揶捱捺掎掴捭掬掊捩掮掼揲揸揠揿揄揞揎摒揆掾摅摁搋搛搠搌搦搡摞撄摭撖這逜",
  "連3逧6逰5逷逹逺逽逿遀遃遅遆遈5過達3遙遚遜6遤遦遧適4遯5遶7遾邁還4邉邊",
  "邌5邒邔邖邘邚邜邞3邤邥邧3邫邭邲邷邼邽邿郀摺撷撸撙撺擀擐擗擤擢攉攥攮弋",
  "忒甙弑卟叱叽叩叨叻吒吖吆呋呒3呖呃吡呗呙吣吲咂咔呷呱呤咚咛咄呶呦咝哐咭",
  "哂咴哒咧咦哓哔呲咣哕咻咿哌哙哚哜咩咪咤哝哏哞唛哧唠哽唔哳唢唣唏唑唧唪啧",
  "喏喵啉啭啁啕唿啐唼郂郃郆郈郉郋3郒郔3郘3郞3郣3郩郪郬郮郰4郵3郹4郿3鄃",
  "鄅20鄚4鄟3鄤11鄰鄲7鄺9酄唷啖啵3唳唰啜喋嗒喃喱喹喈喁喟啾嗖喑啻嗟喽喾喔",
  "喙嗪嗷嗉嘟嗑嗫嗬嗔嗦嗝嗄嗯嗥嗲嗳嗌嗍嗨嗵嗤辔嘞嘈嘌嘁嘤嘣嗾嘀嘧嘭噘嘹噗",
  "嘬噍噢噙噜噌噔嚆噤噱噫噻噼嚅嚓嚯囔囗囝囡囵囫囹囿圄圊圉圜帏帙帔帑帱帻帼",
  "酅酇酈酑酓4酘酙酛酜酟酠酦3酫酭酳酺3醀5醆醈醊醎醏醓7醜6醤6醫醬醰4醶4",
  "醻12釈釋釐釒10針9帷幄幔幛幞幡岌屺岍岐岖岈岘岙岑岚岜岵岢岽岬岫岱岣峁岷",
  "峄峒峤峋峥崂崃崧崦崮崤崞崆崛嵘崾崴崽嵬嵛嵯嵝嵫嵋嵊嵩嵴嶂嶙嶝豳嶷巅彳彷",
  "徂徇徉後徕徙徜徨徭徵徼衢彡犭犰犴犷犸狃狁狎狍狒狨狯狩狲狴狷猁狳猃狺釦96",
  "狻猗猓猡猊猞猝猕猢猹猥猬猸猱獐獍獗獠獬獯獾舛夥飧夤夂饣饧6饴饷饽馀馄馇",
  "馊馍馐馑馓3庀庑庋庖庥庠庹庵庾庳赓廒廑廛廨廪膺忄忉忖忏怃忮怄忡忤忾怅怆",
  "忪忭忸怙怵怦怛怏怍怩怫怊怿怡恸恹恻恺恂鉆46鉵25銏25恪恽悖悚悭悝悃悒悌悛",
  "惬悻悱惝惘惆惚悴愠愦愕愣惴愀愎愫慊慵憬憔憧憷懔懵忝隳闩闫闱闳闵闶闼闾阃",
  "阄阆阈阊4阏阒阕3阙阚丬爿戕氵汔汜汊沣沅沐沔沌汨汩汴汶沆沩泐泔沭泷泸泱泗",
  "沲泠泖泺泫泮沱泓泯泾銨6銯25鋉65洹洧洌浃浈洇洄洙洎洫浍洮洵洚浏浒浔洳涑",
  "浯涞涠浞涓涔浜浠浼浣渚淇淅淞渎涿淠渑淦淝淙渖涫渌涮渫湮湎湫溲湟溆湓湔渲",
  "渥湄滟溱溘滠漭滢溥溧溽溻溷滗溴滏溏滂溟潢潆潇漤漕滹漯漶潋潴漪漉漩澉澍澌",
  "潸潲潼潺濑錊52錿43鍫濉澧澹澶濂濡濮濞濠濯瀚瀣瀛瀹瀵灏灞宀宄宕宓宥宸甯骞",
  "搴寤寮褰寰蹇謇辶迓迕迥迮迤迩迦迳迨逅逄逋逦逑逍逖逡逵逶逭逯遄遑遒遐遨遘",
  "遢遛暹遴遽邂邈邃邋彐彗彖彘尻咫屐屙孱屣屦羼弪弩弭艴弼鬻屮妁妃妍妩妪妣",
  "鍬35鎐58鏋3妗姊妫妞妤姒妲妯姗妾娅娆姝娈姣姘姹娌娉娲娴娑娣娓婀婧婊婕娼",
  "婢婵胬媪媛婷婺媾嫫媲嫒嫔媸嫠嫣嫱嫖嫦嫘嫜嬉嬗嬖嬲嬷孀尕尜孚孥孳孑孓孢驵",
  "驷驸驺驿驽骀骁骅骈骊骐骒骓骖骘骛3骟骠骢骣骥骧纟纡纣纥纨纩鏎8鏗88纭纰纾",
  "绀3绉绋绌绐绔绗绛绠绡绨绫绮绯绱绲缍绶绺绻绾缁3缇缈缋缌缏缑缒缗缙缜缛缟",
  "缡7缪4缯5缵幺畿巛甾邕玎玑玮玢玟珏珂珑玷玳珀珉珈珥珙顼琊珩珧珞玺珲琏琪",
  "瑛琦琥琨琰琮琬鐯15鐿44鑬25钑钖钘铇铏铓铔铚铦铻锜锠琛琚瑁瑜瑗瑕瑙瑷瑭瑾",
  "璜璎璀璁璇璋璞璨璩璐璧瓒璺韪3杌杓杞杈杩枥枇杪杳枘枧杵枨枞枭枋杷杼柰栉",
  "柘栊柩枰栌柙枵柚枳柝栀柃枸柢栎柁柽栲栳桠桡桎桢桄桤梃栝桕桦桁桧桀栾桊桉",
  "栩梵梏桴桷梓桫棂楮棼椟椠棹锧锳锽镃镈镋镕镚镠镮镴镵長8門76椤棰椋椁楗棣",
  "椐楱椹楠楂楝榄楫榀榘楸椴槌榇榈槎榉楦楣楹榛榧榻榫榭槔榱槁槊槟榕槠榍槿樯",
  "槭樗樘橥槲橄樾檠橐橛樵檎橹樽樨橘橼檑檐檩檗檫猷獒殁殂殇殄殒殓殍殚殛殡殪",
  "轫轭轱3轵轶轸轷轹轺轼轾辁辂辄辇辋闌28闬闿阇阓阘阛阞阠阣7阫3阯阰阷4阾陁",
  "陃陊陎陏陑3陖5陜3陠陣陥陦陫陭5陳陸13隇隉隊辍3辘辚軎戋戗戛戟戢戡戥戤戬",
  "臧瓯瓴瓿甏甑甓攴旮3昊昙杲昃昕昀炅曷昝昴昱昶昵耆晟晔晁晏晖晡晗晷暄暌暧",
  "暝暾曛曜曦曩贲贳贶贻贽赀赅赆赈赉赇赍赕赙觇觊3觎4牮犟牝牦牯牾牿犄犋犍犏",
  "犒挈挲掰隌階隑3隕隖隚際隝10隨8隱隲隴隵隷隸隺隻隿雂雃雈雊雋雐雑雓雔雖10",
  "雡7雫4雰3雴雵雸雺4雿霂霃霅霊3霐3霔霕霗5霝霟霠搿擘耄毪毳毽毵毹氅氇氆氍",
  "氕氘3氡氩氤氪氲攵敕敫牍牒牖爰虢刖肟肜肓肼朊肽肱肫肭肴肷胧4胛胂胄胙胍胗",
  "朐胝胫胱胴胭脍脎胲胼朕脒豚脶脞脬脘脲腈腌腓腴腙腚腱腠腩腼腽腭腧塍媵膈膂",
  "膑滕膣膪臌朦臊膻霡9霫霬霮霯霱霳5霺4霿19靔靕靗靘靚靜靝靟靣靤靦3靪9靵靷5",
  "靽8鞆5鞌鞎3鞓鞕3鞙5臁膦欤欷欹歃歆歙飑3飕飙飚殳彀毂觳斐齑斓於旆旄旃旌旎",
  "旒旖炀炜炖炝炻烀炷炫炱烨烊焐焓焖焯焱煳煜煨煅煲煊煸煺熘熳熵熨熠燠燔燧燹",
  "爝爨灬焘煦熹戾戽扃扈扉礻祀祆祉祛祜祓祚祢祗祠祯祧祺禅禊禚禧禳忑忐鞞鞟鞡",
  "鞢鞤7鞬鞮鞰鞱鞳鞵49韨韮5韴韷24怼恝恚恧恁恙恣悫愆愍慝憩憝懋懑戆肀聿沓泶",
  "淼矶矸砀砉砗砘砑斫砭砜砝砹3砟砼砥砬砣砩硎硭硖硗砦硐硇硌硪碛碓碚碇碜碡",
  "碣碲碹碥磔磙磉磬磲礅磴礓礤礞礴龛黹黻黼盱眄眍盹眇眈眚眢眙眭眦眵眸睐睑睇",
  "睃睚睨頏96睢睥睿瞍睽瞀瞌瞑瞟瞠瞰瞵瞽町畀畎畋畈畛畲畹疃罘罡罟詈罨罴罱罹",
  "羁罾盍盥蠲钅3钋钊钌钍钏钐钔钗钕钚3钣钤钫钪钭钬钯钰钲钴钶5钼钽钿铄铈7",
  "铐3铕3铙铘铛铞3铢铤铥铧铨铪顯6颋颎颒颕颙颣風38飏飐飔飖飗飛3飠7飩31铩铫",
  "铮铯铳3铷铹铼铽铿锃锂锆锇锉锊锍3锒5锘锛锝3锢锪锫锩锬锱锲锴锶3锼锾锿镂",
  "锵镄3镉镌镎镏镒3镖4镛镞镟镝镡镢镤9镯镱3锺矧矬雉秕秭秣秫稆嵇稃稂稞稔餈5",
  "餎餏餑29餯37饖13饤饦饳饸饹饻饾馂馃馉稹稷穑黏馥穰皈皎皓皙皤瓞瓠甬鸠鸢",
  "鸨5鸲鸱鸶鸸鸷鸹鸺鸾鹁鹂鹄鹆4鹋鹌鹎鹑鹕鹗鹚3鹞鹣鹦7鹱鹭鹳疒疔疖疠疝疬疣",
  "疳疴疸痄疱疰痃痂痖痍痣痨痦痤痫痧瘃痱痼痿瘐瘀瘅瘌瘗瘊瘥瘘瘕瘙馌馎馚11馦",
  "馧馩81瘛瘼瘢瘠癀瘭瘰瘿瘵癃瘾瘳癍癞癔癜癖癫癯翊竦穸穹窀窆窈窕窦窠窬窨窭",
  "窳衤衩衲衽衿袂袢裆袷袼裉裢裎裣裥裱褚裼裨裾裰褡褙褓褛褊褴褫褶襁襦襻疋胥",
  "皲皴矜耒耔耖耜耠耢耥3耩耨耱耋耵聃聆聍聒聩聱覃顸颀颃駺96颉颌颍颏颔颚颛",
  "颞颟颡颢颥颦虍虔虬虮虿虺虼虻蚨蚍蚋蚬蚝蚧蚣蚪蚓蚩蚶蛄蚵蛎蚰蚺蚱蚯蛉蛏蚴",
  "蛩蛱蛲蛭蛳蛐蜓蛞蛴蛟蛘蛑蜃蜇蛸蜈蜊蜍蜉蜣蜻蜞蜥蜮蜚蜾蝈蜴蜱蜩蜷蜿螂蜢蝽",
  "蝾蝻蝠蝰蝌蝮螋蝓蝣蝼蝤蝙蝥螓螯螨蟒驚18驲骃骉骍骎骔骕骙骦骩7骲4骹骻骽3",
  "髃髄髆5髍4髒體4髙6髠髢4髧4髬髮髰9髺髼7鬄3蟆螈螅螭螗螃螫蟥螬螵螳蟋蟓螽",
  "蟑蟀蟊蟛蟪蟠蟮蠖蠓蟾蠊蠛蠡蠹蠼缶罂罄罅舐竺竽笈笃笄笕笊笫笏筇笸笪笙笮笱",
  "笠笥笤笳笾笞筘筚筅筵筌筝筠筮筻筢筲筱箐箦箧箸箬箝箨箅箪箜箢箫箴篑篁篌篝",
  "篚篥篦篪簌篾篼簏簖簋鬇鬉6鬐3鬔11鬠3鬤11鬰鬱鬳8鬽4魆魊3魎魐魒魓魕39簟簪",
  "簦簸籁籀臾舁舂舄臬衄舡3舭舯舨舫舸舻舳舴舾艄艉艋艏艚艟艨衾袅袈裘裟襞羝",
  "羟羧羯羰羲籼敉粑粝粜粞粢粲粼粽糁糇糌糍糈糅糗糨艮暨羿翎翕翥翡翦翩翮翳糸",
  "絷綦綮繇纛麸麴赳趄趔趑趱赧赭豇豉酊酐酎酏酤魼96酢酡酰酩酯酽酾酲酴酹醌醅",
  "醐醍醑醢醣醪醭3醵醴醺豕鹾趸跫踅蹙蹩趵趿趼趺跄跖跗跚跞跎跏跛跆跬跷跸跣",
  "跹跻跤踉跽踔踝踟踬踮踣踯踺蹀踹踵踽踱蹉蹁蹂蹑蹒蹊蹰蹶蹼蹯蹴躅躏躔躐躜躞",
  "豸貂貊貅貘貔斛觖觞觚觜鯜96觥觫觯訾謦靓雩雳雯霆霁霈霏霎霪霭霰霾龀龃龅6",
  "龌黾鼋鼍隹隼隽雎雒瞿雠銎銮鋈錾鍪鏊鎏鐾鑫鱿鲂鲅4稣鲋鲎鲐3鲔鲕鲚鲛鲞6鲥5",
  "鲫鲭鲮鲰8鲺4鳄4鳊鳋鰼64鱽鱾鲀鲃鲄鲉鲊鲌鲏鲓鲖4鲝鲪鲬鲯鲹鲾5鳈鳉鳑鳒鳚",
  "鳛鳠鳡鳌5鳓3鳗3鳜鳝鳟鳢靼鞅鞑鞒鞔鞯鞫鞣鞲鞴骱骰骷鹘骶骺骼髁髀髅髂髋髌",
  "髑魅魃魇魉魈魍魑飨餍餮饕饔髟髡髦髯髫髻髭髹鬈鬏鬓鬟鬣麽麾縻麂麇麈麋麒鏖",
  "麝麟黛3黠黟黢黩黧黥黪黯鼢鼬鼯鼹鼷鼽鼾齄鳣96\ue23494鵃96\ue29294鶣96",
  "\ue2f094鸃28鸤鸧鸮鸰鸴鸻鸼鹀鹍鹐鹒3鹖鹙鹝鹟4鹥鹮鹯鹲鹴10麀麁麃4麉麊麌6",
  "麔9麞麠6麧4\ue34e94麫9麵3麹麺麼麿5黅4黊3黐黒黓黕3黙黚點黡黣黤黦黨黫4",
  "黰9黺黽黿12鼌鼏鼑鼒鼔3鼘鼚6鼡鼣9鼭鼮鼰鼱\ue3ac94鼲5鼸鼺鼼鼿5齅11齒45龁",
  "龂龍12龜3龡5郎凉秊裏隣\ue40a94兀4﨑﨓﨔礼﨟3﨣﨤﨧3⺁\ue8163⺄㑳㑇⺈⺋",
  "龴㖞㘚㘎⺌⺗㥮㤘龵㧏㧟㩳㧐龶龷㭎㱮㳠⺧\ue831龸⺪䁖䅟⺮䌷⺳⺶⺷\ue83b䎱",
  "䎬⺻䏝䓖䙡䙌龹䜣䜩䝼䞍⻊䥇䥺䥽䦂䦃䦅䦆䦟䦛䦷䦶龺\ue855䲣䲟3䱷䲢䴓7䶮龻",
  "\ue46894"]

/-- Where the places of four octets begin to follow characters in a row:
a place and its character. -/
def gb18030Ranges : List (Nat × Nat) := [
  (0, 0x80), (36, 0xA5), (38, 0xA9), (45, 0xB2), (50, 0xB8), (81, 0xD8),
  (89, 0xE2), (95, 0xEB), (96, 0xEE), (100, 0xF4), (103, 0xF8),
  (104, 0xFB), (105, 0xFD), (109, 0x102), (126, 0x114), (133, 0x11C),
  (148, 0x12C), (172, 0x145), (175, 0x149), (179, 0x14E), (208, 0x16C),
  (306, 0x1CF), (307, 0x1D1), (308, 0x1D3), (309, 0x1D5), (310, 0x1D7),
  (311, 0x1D9), (312, 0x1DB), (313, 0x1DD), (341, 0x1FA), (428, 0x252),
  (443, 0x262), (544, 0x2C8), (545, 0x2CC), (558, 0x2DA), (741, 0x3A2),
  (742, 0x3AA), (749, 0x3C2), (750, 0x3CA), (805, 0x402), (819, 0x450),
  (820, 0x452), (7922, 0x2011), (7924, 0x2017), (7925, 0x201A),
  (7927, 0x201E), (7934, 0x2027), (7943, 0x2031), (7944, 0x2034),
  (7945, 0x2036), (7950, 0x203C), (8062, 0x20AD), (8148, 0x2104),
  (8149, 0x2106), (8152, 0x210A), (8164, 0x2117), (8174, 0x2122),
  (8236, 0x216C), (8240, 0x217A), (8262, 0x2194), (8264, 0x219A),
  (8374, 0x2209), (8380, 0x2210), (8381, 0x2212), (8384, 0x2216),
  (8388, 0x221B), (8390, 0x2221), (8392, 0x2224), (8393, 0x2226),
  (8394, 0x222C), (8396, 0x222F), (8401, 0x2238), (8406, 0x223E),
  (8416, 0x2249), (8419, 0x224D), (8424, 0x2253), (8437, 0x2262),
  (8439, 0x2268), (8445, 0x2270), (8482, 0x2296), (8485, 0x229A),
  (8496, 0x22A6), (8521, 0x22C0), (8603, 0x2313), (8936, 0x246A),
  (8946, 0x249C), (9046, 0x254C), (9050, 0x2574), (9063, 0x2590),
  (9066, 0x2596), (9076, 0x25A2), (9092, 0x25B4), (9100, 0x25BE),
  (9108, 0x25C8), (9111, 0x25CC), (9113, 0x25D0), (9131, 0x25E6),
  (9162, 0x2607), (9164, 0x260A), (9218, 0x2641), (9219, 0x2643),
  (11329, 0x2E82), (11331, 0x2E85), (11334, 0x2E89), (11336, 0x2E8D),
  (11346, 0x2E98), (11361, 0x2EA8), (11363, 0x2EAB), (11366, 0x2EAF),
  (11370, 0x2EB4), (11372, 0x2EB8), (11375, 0x2EBC), (11389, 0x2ECB),
  (11682, 0x2FFC), (11686, 0x3004), (11687, 0x3018), (11692, 0x301F),
  (11694, 0x302A), (11714, 0x303F), (11716, 0x3094), (11723, 0x309F),
  (11725, 0x30F7), (11730, 0x30FF), (11736, 0x312A), (11982, 0x322A),
  (11989, 0x3232), (12102, 0x32A4), (12336, 0x3390), (12348, 0x339F),
  (12350, 0x33A2), (12384, 0x33C5), (12393, 0x33CF), (12395, 0x33D3),
  (12397, 0x33D6), (12510, 0x3448), (12553, 0x3474), (12851, 0x359F),
  (12962, 0x360F), (12973, 0x361B), (13738, 0x3919), (13823, 0x396F),
  (13919, 0x39D1), (13933, 0x39E0), (14080, 0x3A74), (14298, 0x3B4F),
  (14585, 0x3C6F), (14698, 0x3CE1), (15583, 0x4057), (15847, 0x4160),
  (16318, 0x4338), (16434, 0x43AD), (16438, 0x43B2), (16481, 0x43DE),
  (16729, 0x44D7), (17102, 0x464D), (17122, 0x4662), (17315, 0x4724),
  (17320, 0x472A), (17402, 0x477D), (17418, 0x478E), (17859, 0x4948),
  (17909, 0x497B), (17911, 0x497E), (17915, 0x4984), (17916, 0x4987),
  (17936, 0x499C), (17939, 0x49A0), (17961, 0x49B8), (18664, 0x4C78),
  (18703, 0x4CA4), (18814, 0x4D1A), (18962, 0x4DAF), (19043, 0x9FA6),
  (33469, 0xE76C), (33470, 0xE7C8), (33471, 0xE7E7), (33484, 0xE815),
  (33485, 0xE819), (33490, 0xE81F), (33497, 0xE827), (33501, 0xE82D),
  (33505, 0xE833), (33513, 0xE83C), (33520, 0xE844), (33536, 0xE856),
  (33550, 0xE865), (37845, 0xF92D), (37921, 0xF97A), (37948, 0xF996),
  (38029, 0xF9E8), (38038, 0xF9F2), (38064, 0xFA10), (38065, 0xFA12),
  (38066, 0xFA15), (38069, 0xFA19), (38075, 0xFA22), (38076, 0xFA25),
  (38078, 0xFA2A), (39108, 0xFE32), (39109, 0xFE45), (39113, 0xFE53),
  (39114, 0xFE58), (39115, 0xFE67), (39116, 0xFE6C), (39265, 0xFF5F),
  (39394, 0xFFE6), (189000, 0x10000)]

end BatchAdmin.Text
