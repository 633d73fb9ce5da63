import ScopedAnalytics.Charset.Table

/-! What the Chinese standard of four bytes adds to the charset of two. -/
namespace ScopedAnalytics.Charset.Table

/-- Further signs, and places for private use. -/
def gb18030 : Table where
  runs :=
    [(0xA2E3,"€"),(0xA8BF,"ǹ"),(0xA989,"〾⿰⿱⿲⿳⿴⿵⿶⿷⿸⿹⿺⿻"),
     (0xFE50,"⺁���⺄㑳㑇⺈⺋�㖞㘚㘎⺌⺗㥮㤘�㧏㧟㩳㧐��㭎㱮㳠⺧��⺪䁖䅟⺮䌷⺳⺶⺷�䎱"),
     (0xFE78,"䎬⺻䏝䓖䙡䙌��䜣䜩䝼䞍⻊䥇䥺䥽䦂䦃䦅䦆䦟䦛䦷䦶��䲣䲟䲠䲡䱷䲢䴓䴔䴕䴖䴗䴘䴙䶮")]
  spans :=
    [(0xA140,63,0xE4C6),(0xA180,33,0xE505),(0xA240,63,0xE526),(0xA280,33,0xE565),(0xA2AB,6,0xE766),
     (0xA2E4,1,0xE76D),(0xA2EF,2,0xE76E),(0xA2FD,2,0xE770),(0xA340,63,0xE586),(0xA380,33,0xE5C5),
     (0xA440,63,0xE5E6),(0xA480,33,0xE625),(0xA4F4,11,0xE772),(0xA540,63,0xE646),
     (0xA580,33,0xE685),(0xA5F7,8,0xE77D),(0xA640,63,0xE6A6),(0xA680,33,0xE6E5),(0xA6B9,8,0xE785),
     (0xA6D9,7,0xE78D),(0xA6EC,2,0xE794),(0xA6F3,1,0xE796),(0xA6F6,9,0xE797),(0xA740,63,0xE706),
     (0xA780,33,0xE745),(0xA7C2,15,0xE7A0),(0xA7F2,13,0xE7AF),(0xA896,11,0xE7BC),(0xA8BC,1,0xE7C7),
     (0xA8C1,4,0xE7C9),(0xA8EA,21,0xE7CD),(0xA958,1,0xE7E2),(0xA95B,1,0xE7E3),(0xA95D,3,0xE7E4),
     (0xA997,13,0xE7F4),(0xA9F0,15,0xE801),(0xAAA1,94,0xE000),(0xABA1,94,0xE05E),
     (0xACA1,94,0xE0BC),(0xADA1,94,0xE11A),(0xAEA1,94,0xE178),(0xAFA1,94,0xE1D6),(0xD7FA,5,0xE810),
     (0xF8A1,94,0xE234),(0xF9A1,94,0xE292),(0xFAA1,94,0xE2F0),(0xFBA1,94,0xE34E),
     (0xFCA1,94,0xE3AC),(0xFDA1,94,0xE40A),(0xFE51,3,0xE816),(0xFE59,1,0xE81E),(0xFE61,1,0xE826),
     (0xFE66,2,0xE82B),(0xFE6C,2,0xE831),(0xFE76,1,0xE83B),(0xFE7E,1,0xE843),(0xFE90,2,0xE854),
     (0xFEA0,1,0xE864),(0xFEA1,94,0xE468)]

end ScopedAnalytics.Charset.Table
