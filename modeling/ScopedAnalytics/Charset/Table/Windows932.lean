import ScopedAnalytics.Charset.Table

/-! What a vendor added to the Japanese standard, by the bytes of its own charset. -/
namespace ScopedAnalytics.Charset.Table

/-- Other characters in places of the standard, signs, and further kanji. -/
def windows932 : Table where
  runs :=
    [(0x8160,"～∥"),(0x817C,"－"),(0x8191,"￠￡"),(0x81CA,"￢"),
     (0x8740,"①②③④⑤⑥⑦⑧⑨⑩⑪⑫⑬⑭⑮⑯⑰⑱⑲⑳ⅠⅡⅢⅣⅤⅥⅦⅧⅨⅩ�㍉㌔㌢㍍㌘㌧㌃㌶㍑"),
     (0x8768,"㍗㌍㌦㌣㌫㍊㌻㎜㎝㎞㎎㎏㏄㎡"),
     (0x877E,"㍻�〝〟№㏍℡㊤㊥㊦㊧㊨㈱㈲㈹㍾㍽㍼≒≡∫∮∑√⊥∠∟⊿∵∩∪"),
     (0xED40,"纊褜鍈銈蓜俉炻昱棈鋹曻彅丨仡仼伀伃伹佖侒侊侚侔俍偀倢俿倞偆偰偂傔僴僘兊兤冝冾凬刕"),
     (0xED68,"劜劦勀勛匀匇匤卲厓厲叝﨎咜咊咩哿喆坙坥垬埈埇﨏�\ufa10增墲夋奓奛奝奣妤妺孖寀甯寘寬尞"),
     (0xED90,"岦岺峵崧嵓﨑嵂嵭嶸嶹巐弡弴彧德忞恝悅悊惞惕愠惲愑愷愰憘戓抦揵摠撝擎敎昀昕昻昉昮昞"),
     (0xEDB8,"昤晥晗晙\ufa12晳暙暠暲暿曺朎\uf929杦枻桒柀栁桄棏﨓楨﨔榘槢樰橫橆橳橾櫢櫤毖氿汜沆汯泚洄涇"),
     (0xEDE0,"浯涖涬淏淸淲淼渹湜渧渼溿澈澵濵瀅瀇瀨炅炫焏焄煜煆煇\ufa15燁燾犱"),
     (0xEE40,"犾猤\ufa16獷玽珉珖珣珒琇珵琦琪琩琮瑢璉璟甁畯皂皜皞皛皦\ufa17睆劯砡硎硤硺礰\ufa18\ufa19\ufa1a禔\ufa1b禛竑"),
     (0xEE68,"竧\ufa1c竫箞\ufa1d絈絜綷綠緖繒罇羡\ufa1e茁荢荿菇菶葈蒴蕓蕙�蕫﨟薰\ufa20﨡蠇裵訒訷詹誧誾諟\ufa22諶譓"),
     (0xEE90,"譿賰賴贒赶﨣軏﨤\ufa25遧郞\ufa26鄕鄧釚釗釞釭釮釤釥鈆鈐鈊鈺鉀鈼鉎鉙鉑鈹鉧銧鉷鉸鋧鋗鋙鋐﨧"),
     (0xEEB8,"鋕鋠鋓錥錡鋻﨨錞鋿錝錂鍰鍗鎤鏆鏞鏸鐱鑅鑈閒\uf9dc﨩隝隯霳霻靃靍靏靑靕顗顥\ufa2a\ufa2b餧\ufa2c馞驎"),
     (0xEEE0,"髙髜魵魲鮏鮱鮻鰀鵰鵫\ufa2d鸙黑��ⅰⅱⅲⅳⅴⅵⅶⅷⅸⅹ￢￤＇＂"),
     (0xFA40,"ⅰⅱⅲⅳⅴⅵⅶⅷⅸⅹⅠⅡⅢⅣⅤⅥⅦⅧⅨⅩ￢￤＇＂㈱№℡∵纊褜鍈銈蓜俉炻昱棈鋹曻彅"),
     (0xFA68,"丨仡仼伀伃伹佖侒侊侚侔俍偀倢俿倞偆偰偂傔僴僘兊�兤冝冾凬刕劜劦勀勛匀匇匤卲厓厲叝"),
     (0xFA90,"﨎咜咊咩哿喆坙坥垬埈埇﨏\ufa10增墲夋奓奛奝奣妤妺孖寀甯寘寬尞岦岺峵崧嵓﨑嵂嵭嶸嶹巐弡"),
     (0xFAB8,"弴彧德忞恝悅悊惞惕愠惲愑愷愰憘戓抦揵摠撝擎敎昀昕昻昉昮昞昤晥晗晙\ufa12晳暙暠暲暿曺朎"),
     (0xFAE0,"\uf929杦枻桒柀栁桄棏﨓楨﨔榘槢樰橫橆橳橾櫢櫤毖氿汜沆汯泚洄涇浯"),
     (0xFB40,"涖涬淏淸淲淼渹湜渧渼溿澈澵濵瀅瀇瀨炅炫焏焄煜煆煇\ufa15燁燾犱犾猤\ufa16獷玽珉珖珣珒琇珵琦"),
     (0xFB68,"琪琩琮瑢璉璟甁畯皂皜皞皛皦\ufa17睆劯砡硎硤硺礰\ufa18\ufa19�\ufa1a禔\ufa1b禛竑竧\ufa1c竫箞\ufa1d絈絜綷綠緖繒"),
     (0xFB90,"罇羡\ufa1e茁荢荿菇菶葈蒴蕓蕙蕫﨟薰\ufa20﨡蠇裵訒訷詹誧誾諟\ufa22諶譓譿賰賴贒赶﨣軏﨤\ufa25遧郞\ufa26"),
     (0xFBB8,"鄕鄧釚釗釞釭釮釤釥鈆鈐鈊鈺鉀鈼鉎鉙鉑鈹鉧銧鉷鉸鋧鋗鋙鋐﨧鋕鋠鋓錥錡鋻﨨錞鋿錝錂鍰"),
     (0xFBE0,"鍗鎤鏆鏞鏸鐱鑅鑈閒\uf9dc﨩隝隯霳霻靃靍靏靑靕顗顥\ufa2a\ufa2b餧\ufa2c馞驎髙"),
     (0xFC40,"髜魵魲鮏鮱鮻鰀鵰鵫\ufa2d鸙黑")]
  spans :=
    [(0xF040,63,0xE000),(0xF080,125,0xE03F),(0xF140,63,0xE0BC),(0xF180,125,0xE0FB),
     (0xF240,63,0xE178),(0xF280,125,0xE1B7),(0xF340,63,0xE234),(0xF380,125,0xE273),
     (0xF440,63,0xE2F0),(0xF480,125,0xE32F),(0xF540,63,0xE3AC),(0xF580,125,0xE3EB),
     (0xF640,63,0xE468),(0xF680,125,0xE4A7),(0xF740,63,0xE524),(0xF780,125,0xE563),
     (0xF840,63,0xE5E0),(0xF880,125,0xE61F),(0xF940,63,0xE69C),(0xF980,125,0xE6DB)]

end ScopedAnalytics.Charset.Table
