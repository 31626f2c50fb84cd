/-
The supplementary characters of JIS X 0212, by row and column, 94 to a
row.
-/
import BatchAdmin.Text.Encoding.Table

namespace BatchAdmin.Text

/-- The second table of Japanese. -/
def jis0212 : CharTable := [
  "-108˘ˇ¸˙˝¯˛˚～΄΅-8¡¦¿-38ºª©®™¤№-359ΆΈ3Ϊ-Ό-ΎΫ-Ώ-4ά4ϊΐόςύ",
  "ϋΰώ-35Ђ11ЎЏ-35ђ11ўџ-94ÆĐ-Ħ-Ĳ-ŁĿ-ŊØŒ-ŦÞ-16æđðħıĳĸłŀ",
  "ŉŋøœßŧþ-46ÁÀÄÂĂǍĀĄÅÃĆĈČÇĊĎÉÈËÊĚĖĒĘ-ĜĞĢĠĤÍÌÏÎǏİĪĮĨĴĶĹĽĻŃŇŅÑÓÒÖÔǑ",
  "ŐŌÕŔŘŖŚŜŠŞŤŢÚÙÜÛŬǓŰŪŲŮŨǗǛǙǕŴÝŸŶŹŽŻ-7áàäâăǎāąåãćĉčçċďéèëêěėēęǵ",
  "ĝğ-ġĥíìïîǐ-īįĩĵķĺľļńňņñóòöôǒőōõŕřŗśŝšşťţúùüûŭǔűūųůũǘǜ",
  "ǚǖŵýÿŷźžż-383丂丄丅丌丒丟丣两丨丫丮3丵乀乁乄乇乑乚乜乣乨乩乴乵乹乿亍",
  "亖亗亝亯亹仃仐仚仛仠3仨仯仱仳仵份4伂伃伈伋伌伒伕3伙伮伱你伳伵伷伹伻伾",
  "佀佂佈佉佋佌佒佔佖佘佟佣佪佬佮佱佷4佽佾侁侂侄侅侉侊侌侎侐侒3侗侙侚侞侟",
  "侲侷侹侻4俀俁俅俆俈俉俋3俏俒俜俠俢俰俲俼俽俿3倄倇倊倌倎倐倓倗倘倛4倢倧",
  "倮倰倲倳倵偀3偅偆偊偌偎偑3偗偙偟偠偢偣偦偧偪偭偰偱倻傁傃傄傆傊傎3傒3傖",
  "傛傜傞5傪傯傰傹傺傽僀僃僄僇僌僎僐僓僔僘僜僝僟僢僤僦僨僩僯僱僶僺僾儃儆3",
  "儋4僲儐儗儙儛4儣儧儨儬儭儯儱儳3儸儹兂兊兏兓兕兗兘兟兤兦兾冃冄冋冎冘冝",
  "冡冣冭冸冺冼冾冿凂凈减凑3凕凘凞凢凥凮凲3凷刁刂刅划刓刕刖刘刢刨刱刲刵刼",
  "剅剉剕剗剘剚剜剟3剦剮剷3劀劂劅劊劌劓劕4劚劜劤4劯劰劶3劺劻劽勀勄勆勈勌",
  "勏勑勔勖勛勜勡勥勨3勬勰勱勴勶勷匀匃匊3匑匓匘匛匜匞匟匥匧3匫3匰匲匵匼3",
  "卂卌卋卙卛卡卣卥卬卭卲卹卾厃厇厈厎厓厔厙厝厡厤厪厫厯厲厴厵厷厸厺厽叀叅",
  "叏叒叓叕叚叝叞叠另叧叵吂吓吚吡吧吨吪启吱吴吵呃呄呇呍呏呞呢呤呦呧呩呫呭",
  "呮呴呿咁咃咅咈咉咍咑咕咖咜咟咡咦咧咩咪咭咮咱咷咹3咿哆哊响哎哠哪哬哯哶",
  "哼哾4唅唈唉唌3唕唪唫唲唵唶唻3啁啇啉啊啍啐啑啘啚啛啞啠啡啤啦啿喁喂喆喈",
  "喎喏喑4喗喣喤喭喲喿嗁嗃嗆嗉嗋嗌嗎嗑3嗗嗘嗛嗞嗢嗩嗶嗿嘅嘈嘊嘍6嘙嘬嘰嘳",
  "嘵嘷嘹嘻3嘿3噃噄噆噉噋噍噏噔噞噠4噦噩噭噯噱噲噵嚄嚅嚈嚋嚌嚕嚙嚚嚝3嚦4",
  "嚫3嚱嚳嚷嚾囅囉3囏囐囌囍囙囜囝囟囡囤5囱囫园囶囷圁圂圇圊圌圑圕圚圛圝圠",
  "圢4圩圪圬圮圯圳圴圽3坅坆坌坍坒坢坥坧坨坫坭5坳3坷坹4坾垁垃垌垔垗垙垚垜4",
  "垡垕垧3垬垸垽埇埈埌埏埕埝埞埤埦埧埩埭埰埵埶埸埽3堃堄堈堉埡堌堍堛堞3堦",
  "堧堭堲堹堿塉塌塍塏塐塕塟塡塤塧塨塸塼塿3墇4墌墍墏墐墔墖墝墠3墦墩墱墲壄",
  "墼壂壈壍壎壐壒壔壖壚壝壡壢壩壳夅夆夋夌夒3虁夝夡夣夤夨夯夰夳夵夶夿奃奆",
  "奒奓奙奛奝3奡奣奫奭奯奲奵奶她奻奼妋妌妎妒妕妗妟妤妧妭4妳妷妺妼姁姃姄姈",
  "姊姍姒姝3姣姤姧姮姯姱姲姴姷娀娄娌3娒娓娞娣娤娧娨娪娭娰婄婅婇婈婌婐婕婞",
  "婣婥婧婭婷婺婻婾媋媐媓媖媙媜媞3媢媧媬媱3媵媸媺媻媿嫄嫆嫈嫏嫚嫜嫠嫥嫪嫮",
  "嫵嫶嫽嬀嬁嬈嬗嬴嬙嬛嬝嬡嬥嬭嬸孁孋孌孒孖孞孨孮孯孼4宁宄宆宊宎宐宑宓宔",
  "宖宨宩宬宭宯宱宲宷宺宼寀寁寍寏寖5寠寯寱寴寽尌尗尞尟尣尦尩尫尬尮尰尲尵",
  "尶屙屚屜屢屣屧3屭屰屴屵屺4岇岈岊岏岒岝岟岠岢岣岦岪岲岴岵岺峉峋峒峝峗峮",
  "峱峲峴崁崆崍崒崫崣崤崦崧崱崴崹崽崿嵂嵃嵆嵈嵕嵑嵙嵊嵟4嵤嵪嵭嵰嵹嵺嵾嵿",
  "嶁嶃嶈嶊嶒4嶙嶛嶟嶠嶧嶫嶰嶴嶸嶹巃巇巋巐巎巘巙巠巤巩巸巹帀帇帍帒帔帕帘",
  "帟帠帮帨帲帵帾幋幐幉幑幖幘幛幜幞幨幪5幰庀庋庎庢庤庥庨庪庬庱庳庽3廆廌廋",
  "廎廑廒廔廕廜廞廥廫异弆3弎弙弜弝弡4弨弫弬弮弰弴弶弻弽弿彀彄彅彇彍彐彔彘",
  "彛彠彣彤彧彯彲彴彵彸彺彽彾徉徍徏徖徜徝徢徧徫徤徬徯3徸忄忇3忋忐5忞忡忢",
  "忨3忬4忲忳忶忺忼怇怊怍怓怔怗怘怚怟怤怭怳怵恀恇3恌恑恔恖恗恝恡恧恱恾恿",
  "悂悆悈悊悎悑悓悕悘悝悞悢悤悥您悰悱悷悻悾惂惄惈4惎惏惔惕惙惛惝惞惢惥惲",
  "惵惸惼惽愂愇愊愌愐5愖愗愙愜愞愢愪愫愰愱愵3愹慁慅慆慉慞慠慬慲慸慻慼慿3",
  "憃憄憋憍憒憓憗憘憜憝憟憠憥憨憪憭憸憹憼懀3懎懏懕懜4懡懢懧懩懥懬懭懯戁戃",
  "戄戇戓戕戜戠戢戣戧戩戫戹戽扂3扆扌扐3扔扖扚扜扤扭扯扳扺扽抍4抦抨抳抶抷",
  "抺抾抿拄拎拕拖拚拪拲拴拼拽挃挄挊挋挍挐挓挖挘挩挪挭挵挶挹挼捁4捆捊捋捎",
  "捒3捘捛捥捦捬捭捱捴捵捸捼捽捿掂掄掇掊掐掔掕掙掚掞掤掦掭3掽揁揅揈揎揑",
  "揓3揜揠揥揪揬揲揳揵揸揹搉搊搐搒搔搘搞搠搢搤搥搩搪搯搰搵搽搿摋摏摑4摚4",
  "摟3摣摭摳摴摻摽撅撇撏3撘撙撛撝撟撡撣撦撨撬撳撽3擄擉4擎擐擑擕擗擤擥擩擪",
  "擭擰擵擷擻擿攁攄攈3攏攓攔攖攙攛攞攟攢攦攩攮攱攺攼攽敃敇敉敐敒敔敟敠敧",
  "敫敺敽斁斅斊斒斕斘斝斠斣斦斮斲3斿旂旈旉旎旐旔旖旘旟旰旲旴旵旹旾3昄昈昉",
  "昍昑昒昕昖昝昞昡4昦昩4昮昰昱昳昹昷晀晅晆晊晌晑晎晗3晛晜晠晡曻晪3晾晳晵",
  "晿晷3晻暀晼暋3暐暒暙4暟暠暤暭暱暲暵暻暿曀曂曃曈曌曎曏曔曛曟曨曫曬曮曺",
  "朅朇朎朓朙朜朠朢朳朾杅杇杈杌杔杕杝杦杬杮杴杶杻极构枎枏枑枓枖枘枙枛枰3",
  "枵枻3柹柀柂柃柅柈柉柒柗柙柜柡柦柰柲柶柷桒栔栙栝栟栨栧栬栭栯3栳栻栿桄桅",
  "桊桌桕桗桘桛桫桮5桵桹4梂梄梆梈梖梘梚梜梡梣梥梩梪梮梲梻棅棈棌棏3棓棖棙",
  "棜棝棥棨棪4棰棱棵棶棻3椆椉椊椐椑椓椖椗椱椳椵椸椻楂楅楉楎楗楛楣4楨楩楬",
  "楰3楺楻楿榀榍榒榖榘榡榥榦榨榫榭榯榷榸榺榼槅槈槑槖槗槢槥槮槯槱槳槵槾樀",
  "樁樃樏樑樕樚樝樠樤樨樰樲樴樷樻樾樿橅橆橉橊橎橐3橕橖橛橤橧橪橱橳橾檁檃",
  "檆檇檉檋檑檛檝3檥檫檯3檴檽3櫆櫉櫈櫌櫐櫔3櫜櫝櫤櫧櫬櫰3櫼櫽欂欃欆欇欉欏3",
  "欗欛欞欤欨欫欬欯欵欶欻欿歆歊歍歒歖歘歝歠歧歫歮歰歵歽歾殂殅殗殛殟殠殢殣",
  "殨殩殬3殰殸殹殽殾毃毄毉毌毖毚毡毣毦毧毮毱毷毹毿氂氄氅氉氍氎氐氒氙氟氦3",
  "氬氮氳氵氶氺氻氿汊汋汍汏汒汔汙汛汜汫汭汯汴汶汸汹汻沅3沉沔沕沗沘沜沟沰",
  "沲沴泂泆泍泏4泔泖泚泜泠泧泩泫泬泮泲泴洄洇洊洎洏洑洓洚洦3汧洮洯洱洹洼洿",
  "浗浞浟浡浥浧浯浰浼涂涇涑涒涔涖3涪涬涴涷涹涽涿淄淈淊淎淏淖淛淝淟淠淢淥",
  "淩淯淰淴淶淼渀渄渞渢渧渲渶渹渻渼湄湅湈湉湋湏湑4湗湜3湢湣湨湳湻湽溍溓溙",
  "溠溧溭溮溱溳溻溿3滃滇滈滊滍3滫滭滮滹滻滽漄漈漊漌漍漖漘漚漛漦漩漪漯漰漳",
  "漶漻漼漭潏潑3潗潙潚潝潞潡潢潨潬潽潾澃澇澈澋3澐澒3澖澚澟澠澥4澮3澵澶澼",
  "濅濇濈濊濚濞濨濩濰濵濹濼濽瀀瀅3瀍瀗瀠瀣瀯瀴瀷瀹瀼灃灄灈4灔灕灝灞灎灤灥",
  "灬灮灵灶灾炁炅炆炔5炛炤炫炰炱炴炷烊烑烓4烘烜烤烺焃5焋焌焏焞焠焫焭焯3焸",
  "煁煅3煊煋煐煒煗煚煜煞煠煨煹熀熅熇熌熒熚熛熠熢熯熰熲熳熺熿3燄燋燌燓燖燙",
  "燚燜燸燾爀爇3爓爗爚爝爟爤爫爯爴爸爹牁3牅牎3牓牕牖牚牜牞牠牣牨牫牮牯牱",
  "牷牸牻牼牿犄犉犍犎犓犛犨犭犮犱犴犾狁狇狉狌狕狖狘狟狥狳狴狺狻狾猂猄猅猇",
  "猋猍猒猓猘猙猞猢猤猧猨猬猱猲猵猺猻猽獃獍獐獒獖獘獝4獦獧獩獫獬獮獯獱獷",
  "獹獼玀玁玃玅玆玎玐玓玕玗玘玜玞3玢玥玦玪玫玭玵玷玹玼玽玿珅珆珉珋珌珏珒",
  "珓珖珙珝珡珣珦珧珩珴珵珷珹3珽珿3琄琇琊琑琚琛琤琦琨10琹瑀瑃瑄瑆瑇瑋瑍瑑",
  "瑒瑗瑝瑢瑦3瑫瑭瑮瑱瑲璀璁璅3璉璏4璘3璜璟3璣璦璨4璮璯璱璲璵璹璻璿瓈瓉瓌",
  "瓐瓓瓘瓚瓛瓞瓟瓤瓨瓪瓫瓯瓴瓺3瓿甆甒甖甗甠甡甤甧甩甪甯甶甹甽4畃畇畈畎畐",
  "畒畗畞畟畡畯畱畹6疁疅疐疒疓疕疙疜疢疤疴疺疿3痄痆痌痎痏痗痜痟3痤痧痬痮",
  "痯痱痹瘀瘂3瘇瘈瘊瘌瘏瘒瘓瘕瘖瘙瘛4瘣瘥瘦瘩瘭瘲瘳瘵瘸3瘼癊癀癁癃3癉癋癕",
  "癙癟癤癥癭3癱癴皁皅皌皍皕皛3皟皠皢7皪皭皽盁盅盉盋盌盎盔盙盠盦盨盬盰盱",
  "盶盹盼眀眆眊眎眒眔眕眗眙眚眜眢眨眭3眴3眹眽眾睂睅睆睊睍3睒睖睗睜睞3睢睤",
  "睧睪睬睰睲3睺睽瞀瞄瞌瞍瞔3瞚瞟瞢瞧瞪瞮瞯瞱瞵瞾矃矉矑矒矕矙矞3矤矦矪矬",
  "矰矱矴矸矻砅砆砉砍砎砑砝砡3砭砮砰砵砷硃硄硇硈硌硎硒硜硞硠硡硣硤硨硪确",
  "硺硾碊碏碔碘碡碝3碤碨碬碭碰4碻碽碿磇3磌磎磒磓磕磖磤磛磟3磦磪磲磳礀磶磷",
  "磺磻磿礆礌礐礚礜礞3礥礧礩礭礱礴礵礻礽礿祄3祊祋祏祑祔祘祛祜祧祩祫祲祹祻",
  "祼祾禋禌禑禓4禘禛禜禡禨禩禫禯禱禴禸离秂秄秇秈秊秏秔秖秚秝秞秠秢秥秪秫",
  "秭秱秸秼稂稃稇稉稊稌稑稕稛稞稡稧稫稭稯稰稴稵稸3穄穅穇穈穌穕穖穙穜穝穟",
  "穠穥穧穪穭穵穸穾窀窂窅窆窊窋窐窑窔窞窠窣窬窳窵窹窻窼竆竉竌竎竑竛竨竩竫",
  "竬竱竴竻竽竾笇笔笟笣笧笩3笭5笴笽笿3筇筎筕筠筤筦筩筪筭筯筲筳筷箄箉箎箐",
  "箑箖箛箞箠箥箬箯箰箲箵箶箺4篂篅篈篊篔篖篗篙3篨篪篲篴篵篸3篼篾簁4簆簉簋",
  "簌簎簏簙簛簠簥簦簨簬簱簳簴簶簹簺籆籊籕籑3籙6籡籣籧籩籭籮籰籲籹籼籽粆粇",
  "粏粔粞粠粦粰粶粷粺3粿糄糇3糍糏糓3糗糙糚糝糦糩糫糵紃紇3紏紑3紖紝紞紣紦",
  "紪紭紱紼3絀絁絇絈絍絑絓絗絙絚絜絝絥絧絪絰絸絺絻絿綁3綅綆綈綋3綑綖綗綝",
  "綞綦綧綪綳綶綷綹緂5緌3緗緙縀緢緥緦緪緫緭緱緵緶緹緺縈縐縑縕縗縜縝縠縧縨",
  "縬縭縯縳縶縿繄繅繇繎繐繒繘繟繡繢繥繫繮繯繳繸繾纁纆纇纊纍纑纕纘纚纝纞缼",
  "缻缽3罃罄罇罏罒罓罛3罡罣4罭罱罽4羋羍羏3羖羗羜羡羢羦羪羭羴羼羿翀翃翈翎",
  "翏翛翟翣翥翨翬翮翯翲翺翽3耇耈耊耍3耑耓耔耖耝4耤耦耬耮耰耴耵耷耹耺耼耾",
  "聀聄聠聤聦聭聱聵肁肈肎肜肞肦肧肫肸肹胈胍胏胒胔胕胗胘胠胭胮胰胲胳胶胹胺",
  "胾脃脋脖3脜脞脠脤脧脬脰脵脺脼腅腇腊腌腒腗腠腡腧3腭腯腷膁膐膄3膋膎膖膘",
  "膛膞膢膮膲膴膻臋臃臅臊臎臏臕臗臛臝臞臡臤臫臬臰3臵臶臸臹臽臿舀舃舏舓舔",
  "舙舚舝舡舢舨舲舴舺艃4艋艎艏艑艖艜艠艣艧艭艴艻艽艿3芃芄芇芉芊芎芑芔芖芘",
  "芚芛芠芡芣芤芧4芮芰芲芴芷芺芼芾芿苆苐苕苚苠苢苤苨苪苭苯苶苷苽苾茀茁茇",
  "茈茊茋荔茛茝3茡茢茬3茰茳茷茺茼茽荂3荇荍荎荑荕3荰荸荽荿莀莂莄莆莍莒莔莕",
  "莘莙莛3莦莧莩莬莾3菇菉菏3菔菝荓菨菪菶菸菹菼萁萆萊萏萑萕萙莭萯萹葅葇葈",
  "葊葍葏葑葒葖葘3葜葠葤葥葧葪葰葳葴葶葸葼葽蒁蒅蒒蒓蒕蒞蒦蒨3蒯蒱蒴蒺蒽蒾",
  "蓀蓂蓇蓈蓌蓏蓓蓜蓧蓪蓯4蓷蔲蓺蓻蓽蔂蔃蔇蔌蔎蔐蔜蔞蔢4蔧蔪蔫蔯蔳蔴蔶蔿蕆",
  "蕏5蕖蕙蕜7蕤蕫蕯蕹3蕽蕿薁薅薆薉薋薌薏薓薘薝薟薠薢薥薧薴薶3薼4藂藇藊藋",
  "藎薭藘藚藟藠藦藨藭藳藶藼藿蘀蘄蘅蘍蘎蘐3蘘蘙蘛蘞蘡蘧蘩蘶蘸蘺蘼蘽虀虂虆",
  "虒虓虖4虝虠5虩虬虯虵3虺蚍蚑蚖蚘蚚蚜蚡蚦3蚭蚱蚳3蚷3蚿3蛃蛅蛑蛒蛕蛗蛚蛜",
  "蛠蛣蛥蛧蚈蛺蛼蛽蜄蜅蜇蜋蜎3蜓蜔蜙蜞蜟蜡蜣蜨蜮蜯蜱蜲蜹蜺蜼3蝀蝃蝅蝍蝘蝝",
  "蝡蝤蝥蝯蝱蝲蝻螃7螋螌螐螓螕螗3螞螠螣螧螬3螱螵螾螿蟁蟈3蟎蟕蟖蟙蟚蟜蟟",
  "蟢3蟪蟫蟭蟱蟳蟸蟺蟿蠁蠃蠆蠉3蠐蠙蠒3蠘蠚3蠞蠟蠨蠭蠮蠰蠲蠵蠺蠼衁衃衅衈4",
  "衎衑衕衖衘衚衜衟衠衤衩衱衹衻袀袘袚3袟袠袨袪袺袽袾裀裊5裑3裛裞裧裯3裵裷",
  "褁褆褍3褕褖褘3褜褠褦3褰3褵褹褺褾襀襂襅襆襉襏襒襗襚3襡3襫襮襰襳襵襺4覉",
  "覍覐覔覕覛覜覟覠覥覰覴4覼觔5觥觩觫觭觱觳觶觹觽觿訄訅訇訏訑訒訔訕訞訠訢",
  "訤訦訫訬訯訵訷訽訾詀詃詅詇詉詍詎詓詖3詜詝詡詥詧詵3詹3詾3誃誆誋誏誐誒誖",
  "誗誙誟誧誩誮誯誳誶誷誻誾諃諆諈3諑諓3諗諝諟諬諰諴3諼諿謅謆謋謑謜謞謟謊",
  "謭謰謷謼譂5譈譒3譙譍譞譣譭譶譸譹譼譾讁讄讅讋讍讏讔讕讜讞讟谸谹谽谾豅豇",
  "豉豋豏豑豓豔豗豘豛豝豙豣豤豦豨豩豭豳豵豶豻豾貆貇貋貐貒貓貙貛貜貤貹貺賅",
  "賆賉賋賏賖賕賙賝賡賨賬賯賰賲賵賷賸賾賿贁贃贉贒贗贛赥赩赬赮赿趂趄趈趍趐",
  "趑趕趞3趦趫趬趯趲趵趷趹趻跀跅4跊跎跑跔跕跗跙跤跥跧跬跰趼跱跲跴跽踁踄3",
  "踋踑踔踖踠4踦踧踱踳踶4踽蹀蹁蹋蹍3蹔蹛4蹡蹢蹩蹬蹭蹯3蹹3躂躃躉躐躒躕躚躛",
  "躝躞躢躧躩躭躮躳躵躺躻軀軁軃軄軇軏軑軔軜軨軮軰軱軷軹軺軭輀輂輇輈輏輐",
  "輖3輞輠輡輣輥輧輨輬3輴4輺轀轁轃轇轏轑5轘轝轞轥辝辠辡辤3辵辶辸达迀迁迆",
  "迊迋迍运迒迓迕迠迣迤迨迮迱迵迶迻迾适逄逈逌逘逛逨逩逯逪逬逭逳逴逷逿遃遄",
  "遌遛遝遢遦遧遬遰遴遹邅邈邋邌邎邐邕邗3邛邠3邥邰邲3邶邽郌邾郃3郇郈郕郗3",
  "郜郝郟郥郒郶郫郯郰郴郾3鄄3鄈鄍鄐鄔鄖3鄚鄜鄞鄠鄥鄢鄣鄧鄩鄮鄯鄱鄴鄶鄷鄹",
  "鄺鄼鄽酃酇酈酏酓酗酙3酡酤酧酭酴酹3醁醃醅醆醊醎醑醓3醘醞醡醦醨醬3醰4醶",
  "醻3醿釂釃釅釓釔釗釙釚釞釤釥釩釪釬6釷釹釻釽鈀鈁鈄4鈉鈊鈌鈐鈒鈓鈖鈘鈜鈝",
  "鈣4鈨鈮3鈳鈵鈶鈸3鈼鈾鉀鉂鉃鉆鉇鉊鉍3鉑鉘鉙鉜鉝鉠鉡鉥鉧3鉮3鉵5鉻3鉿銈3",
  "銍銎銒銗銙銟銠銤銥銧銨銫銯銲銶銸銺4銿5鋅4鋋4鋐鋓鋕鋗3鋜鋝鋟3鋣鋥鋧鋨鋬",
  "鋮鋰鋹鋻鋿錀錂錈錍錑錔錕錜4錡錤錥錧錩錪錳錴錶錷鍇3鍐3鍕鍗鍘鍚鍞鍤鍥鍧",
  "鍩鍪鍭鍯3鍳鍴鍶鍺鍽鍿4鎈鎊鎋鎍鎏鎒鎕鎘鎛鎞鎡鎣鎤鎦鎨鎫鎴3鎺鎩鏁鏄4鏉5",
  "鏓鏙鏜鏞鏟鏢鏦鏧鏹鏷鏸鏺鏻鏽鐁鐂鐄鐈鐉鐍3鐕3鐟鐮鐯鐱4鐻鐿鐽鑃鑅鑈鑊鑌",
  "鑕鑙鑜鑟鑡鑣鑨鑫鑭3鑱鑲钄钃镸镹镾閄閈閌3閝3閡閦閩閫閬閴閶閺閽閿闆闈闉",
  "闋闐4闙闚闝4闤闦阝阞阢阤3阬阱阳阷4阼阽陁陒陔陖3陡陮陴陻陼陾陿隁4隉隑隖",
  "隚隝隟隤3隩隮隯隳隺雊雒嶲雘雚雝3雩雯雱雺霂霃霅霉霚霛霝霡3霨霱霳靁靃靊",
  "靎靏靕靗靘靚靛靣靧靪靮靳靶3靻靽靿鞀鞉鞕3鞙鞚鞞鞟鞢鞬鞮鞱鞲鞵鞶鞸3鞼鞾",
  "鞿韁韄韅韇韉韊韌3韐韑韔韗3韝韞韠韛韡韤韯韱韴韷韸韺頇頊頙頍頎頔頖頜頞頠",
  "頣頦頫頮3頲頳頵頥頾顄顇顊顑3顖顗顙顚顢顣顥顦顪顬颫颭颮颰颴颷颸颺颻颿飂",
  "飅飈飌飡飣飥3飪飳飶餂餇餈餑餕3餚3餟餢餦餧餫餱5餹4饀饁饆3饍饎饔饘饙饛饜",
  "饞3馛馝馟馦馰3馵馹馺馽馿駃駉駓駔駙駚駜駞駧駪3駰駴駵駹駽駾騂3騋騌騐騑騖",
  "騞騠騢3騧騭騮騳騵騶騸驇驁驄驊3驎驑驔驖驝骪骬骮骯骲骴3骹骻骾骿髁髃髆髈",
  "髎髐髒髕3髛髜髠髤髥髧髩髬髲髳髵髹髺髽髿7鬈鬉鬋4鬐鬒鬖鬙鬛鬜鬠鬦鬫鬭鬳3",
  "鬷鬹鬺鬽魈魋魌魕3魛魞魡魣魥魦魨魪5魳魵魷3魿鮀鮄4鮉3鮍鮏鮐鮔鮚鮝鮞鮦鮧",
  "鮩鮬鮰3鮷鮸鮻鮼鮾鮿鯁鯇鯈鯎鯐鯗鯘鯝鯟鯥鯧鯪鯫鯯鯳鯷4鯽鯿鰀鰂鰋鰏鰑鰖",
  "鰘3鰜鰞鰢鰣鰦5鰱鰵3鰽鱁鱃3鱉鱊鱎3鱓鱔鱖鱘鱛鱝3鱣鱩鱪鱜鱫鱨鱮鱰鱲鱵鱷鱻",
  "鳦鳲鳷鳹鴋鴂鴑鴗鴘鴜3鴯鴰鴲3鴺鴼鵅鴽鵂鵃鵇鵊鵓鵔鵟鵣鵢鵥鵩3鵰鵶鵷鵻鵼",
  "鵾鶃鶄鶆鶊鶍鶎鶒鶓鶕4鶡鶪鶬鶮鶱鶵鶹鶼鶿鷃鷇鷉鷊鷔4鷚鷞3鷥鷧鷩鷫鷮鷰鷳",
  "鷴鷾鸊鸂鸇鸎鸐3鸕鸖鸙鸜鸝鹺3麀麂4麇麎麏麖麘麛麞麤麨麬麮3麳3黆黈黋黕黟",
  "黤黧黬3黰3黵黸黿鼂鼃鼉鼏4鼔鼖鼗鼙3鼟鼢鼦鼪鼫鼯鼱鼲鼴鼷鼹鼺鼼鼽鼿齁齃5",
  "齓齕4齚齝齞齨齩齭5齳齵齺齽龏4龔龖龗龞龡3龥"]

end BatchAdmin.Text
