import Mathlib.Algebra.GroupWithZero.Nat
import ScopedAnalytics.Proofs.Calendar.Formats
import ScopedAnalytics.Row.Decoding

/-! The reader of timestamps and their formats: a text is read exactly if one of the four formats
writes it, and then as what that format makes of it. -/
namespace ScopedAnalytics.DateTime
open Text (isDecimal)

section Fields
variable {field : Field} {part : Part} {text rest cs : List Char} {value : Nat}

/-- Whether a field of the reader takes the texts that a part of the formats takes. -/
structure Field.Reads (field : Field) (part : Part) : Prop where
  unmarked : ∀ c, part ≠ .mark c
  pair : ∀ a b, field.pair a b = true ↔ part.Takes [a,b]
  single : ∀ a, field.single a = true ↔ part.Takes [a]
  short : ∀ form ∈ part.forms, form.length = 1 ∨ form.length = 2

private theorem monthField_reads : monthField.Reads .month where
  unmarked := by simp
  pair a b := by simp [monthField,Part.Takes,Part.forms,only]
  single a := by simp [monthField,Part.Takes,Part.forms,only]
  short := by decide

private theorem dayField_reads : dayField.Reads .day where
  unmarked := by simp
  pair a b := by
    simp [dayField,Part.Takes,Part.forms,only]
    tauto
  single a := by simp [dayField,Part.Takes,Part.forms,only]
  short := by decide

private theorem hourField_reads : hourField.Reads .hour where
  unmarked := by simp
  pair a b := by simp [hourField,Part.Takes,Part.forms,only]
  single a := by simp [hourField,Part.Takes,Part.forms,only]
  short := by decide

private theorem minuteField_reads : minuteField.Reads .minute where
  unmarked := by simp
  pair a b := by simp [minuteField,Part.Takes,Part.forms]
  single a := by simp [minuteField,Part.Takes,Part.forms]
  short := by decide

private theorem secondField_reads : secondField.Reads .second where
  unmarked := by simp
  pair a b := by simp [secondField,Part.Takes,Part.forms,only]
  single a := by simp [secondField,Part.Takes,Part.forms,only]
  short := by decide

private theorem Field.Reads.length_takes (reads : field.Reads part) (takes : part.Takes text) :
    text.length = 1 ∨ text.length = 2 := by
  obtain ⟨form,member,fits⟩ := takes
  rw [← fits.length_eq]
  exact reads.short form member

private theorem Field.Reads.read?_append (reads : field.Reads part) (takes : part.Takes text)
    (ends : ∀ c ∈ rest.head?, isDecimal c = false) :
    field.read? (text ++ rest) = some (number text,rest) := by
  match text,reads.length_takes takes with
  | [a,b],_ =>
    rw [List.cons_append,List.cons_append,List.nil_append,Field.read?,
      if_pos ((reads.pair a b).mpr takes)]
    simp [number]
  | [a],_ =>
    have single := (reads.single a).mpr takes
    cases rest with
    | nil =>
      rw [List.append_nil,Field.read?,if_pos single]
      simp [number]
    | cons c rest =>
      have unpaired : ¬field.pair a c = true := by
        intro paired
        obtain ⟨_,_,same,_,digits⟩ := takes_digits reads.unmarked ((reads.pair a c).mp paired)
        obtain ⟨_,rfl⟩ := List.cons.inj same
        simpa [digits c (List.mem_singleton_self c)] using ends c rfl
      rw [List.cons_append,List.nil_append,Field.read?,if_neg unpaired,if_pos single]
      simp [number]

private theorem Field.Reads.takes_of_read? (reads : field.Reads part)
    (read : field.read? cs = some (value,rest)) :
    ∃ text, part.Takes text ∧ number text = value ∧ text ++ rest = cs := by
  match cs with
  | [] => cases read
  | [a] =>
    rw [Field.read?] at read
    split at read
    · rename_i single
      cases read
      exact ⟨[a],(reads.single a).mp single,by simp [number],rfl⟩
    · cases read
  | a :: b :: cs =>
    rw [Field.read?] at read
    split at read
    · rename_i pair
      cases read
      exact ⟨[a,b],(reads.pair a b).mp pair,by simp [number],rfl⟩
    · split at read
      · rename_i single
        cases read
        exact ⟨[a],(reads.single a).mp single,by simp [number],rfl⟩
      · cases read

private theorem readYear?_append (takes : Part.year.Takes text) :
    readYear? (text ++ rest) = some (number text,rest) := by
  obtain ⟨form,member,fits⟩ := takes
  obtain rfl := List.mem_singleton.mp member
  simp only [List.forall₂_cons_left_iff,List.forall₂_nil_left_iff] at fits
  obtain ⟨a,_,first,⟨b,_,second,⟨c,_,third,⟨d,_,fourth,rfl,rfl⟩,rfl⟩,rfl⟩,rfl⟩ := fits
  simp [readYear?,first,second,third,fourth,number]

private theorem takes_of_readYear? (read : readYear? cs = some (value,rest)) :
    ∃ text, Part.year.Takes text ∧ number text = value ∧ text ++ rest = cs := by
  rw [readYear?.eq_def] at read
  split at read
  · rename_i a b c d others
    split at read
    · rename_i digits
      cases read
      exact ⟨[a,b,c,d],by simpa [Part.Takes,Part.forms] using digits,by simp [number],rfl⟩
    · cases read
  · cases read

end Fields

section Endings
variable {texts : List (List Char)} {text digits tail : List Char} {micro : Nat}

private theorem forall₂_replicate {p : Char → Bool} {count : Nat} :
    List.Forall₂ (fun fits c => fits c = true) (List.replicate count p) digits ↔
      digits.length = count ∧ ∀ c ∈ digits, p c = true := by
  induction count generalizing digits with
  | zero =>
    rw [List.replicate_zero,List.forall₂_nil_left_iff,List.length_eq_zero_iff]
    exact ⟨fun nothing => ⟨nothing,by simp [nothing]⟩,And.left⟩
  | succ count ih =>
    cases digits with
    | nil => simp [List.replicate_succ]
    | cons c digits => simp [List.replicate_succ,ih,and_left_comm]

private theorem takes_fraction : Part.fraction.Takes digits ↔
    (1 ≤ digits.length ∧ digits.length ≤ 6) ∧ ∀ c ∈ digits, between '0' '9' c = true := by
  constructor
  · rintro ⟨form,member,fits⟩
    obtain ⟨count,among,rfl⟩ := List.mem_map.mp member
    obtain ⟨rfl,ascii⟩ := forall₂_replicate.mp fits
    simp only [List.mem_cons,List.not_mem_nil,or_false] at among
    exact ⟨by omega,ascii⟩
  · rintro ⟨size,ascii⟩
    have among : digits.length ∈ [6,5,4,3,2,1] := by
      simp only [List.mem_cons,List.not_mem_nil,or_false]
      omega
    exact ⟨_,List.mem_map_of_mem among,forall₂_replicate.mpr ⟨rfl,ascii⟩⟩

private theorem number_zeros (text : List Char) (count : Nat) :
    number (text ++ List.replicate count '0') = number text * 10 ^ count := by
  induction count with
  | zero => simp
  | succ count ih =>
    rw [List.replicate_succ',← List.append_assoc,number,List.foldl_concat,← number,ih,Nat.pow_succ,
      Nat.mul_assoc]
    rfl

private theorem fractionMicros?_iff : fractionMicros? digits = some micro ↔
    Part.fraction.Takes digits ∧
      number (digits ++ List.replicate (6 - digits.length) '0') = micro := by
  have refused : (digits.isEmpty ∨ 6 < digits.length ∨ !digits.all (between '0' '9')) ↔
      ¬Part.fraction.Takes digits := by
    rw [takes_fraction,Bool.not_eq_true',← Bool.not_eq_true,List.all_eq_true,
      List.isEmpty_iff_length_eq_zero,not_and_or,not_and_or,or_assoc]
    exact or_congr (by omega) (or_congr (by omega) Iff.rfl)
  rw [fractionMicros?,number_zeros,number]
  split
  · rename_i off
    exact iff_of_false (by simp) fun both => absurd both.1 (refused.mp off)
  · rename_i fits
    rw [Option.some.injEq]
    exact ⟨fun value => ⟨not_not.mp fun off => fits (refused.mpr off),value⟩,And.right⟩

private theorem dropZone_of_zone {z : Char} (zone : (Part.mark 'Z').Takes [z]) (cs : List Char) :
    dropZone (cs ++ [z]) = cs := by
  obtain ⟨d,either,same⟩ := takes_mark.mp zone
  obtain rfl := (List.cons.inj same).1
  rw [dropZone,if_pos,List.dropLast_concat]
  rw [List.getLast?_concat,Option.some.injEq,Option.some.injEq]
  exact either

private theorem dropZone_cases (cs : List Char) :
    (∃ z, (Part.mark 'Z').Takes [z] ∧ dropZone cs ++ [z] = cs) ∨ dropZone cs = cs := by
  rw [dropZone]
  split
  · rename_i last
    left
    rcases last with last | last
    all_goals
      obtain ⟨front,rfl⟩ := List.getLast?_eq_some_iff.mp last
      rw [List.dropLast_concat]
      exact ⟨_,takes_mark.mpr ⟨_,by decide,rfl⟩,rfl⟩
  · exact .inr rfl

private theorem takes_caseless {c : Char} (caseless : c.toLower = c) :
    (Part.mark c).Takes text ↔ text = [c] := by
  simp [takes_mark,caseless]

private theorem readTail?_cases : readTail? tail = some micro ↔
    (dropZone tail = [] ∧ micro = 0) ∨
      ∃ digits, dropZone tail = '.' :: digits ∧ fractionMicros? digits = some micro := by
  rw [readTail?.eq_def]
  split
  · rename_i nothing
    simp [nothing,eq_comm]
  · rename_i digits point
    simp [point]
  · rename_i noPoint nothing
    refine ⟨nofun,?_⟩
    rintro (⟨empty,_⟩ | ⟨digits,point,_⟩)
    · exact absurd empty noPoint
    · exact absurd point (nothing digits)

/-- A fraction ends in a digit or in its point, so nothing is dropped from it. -/
private theorem dropZone_fraction (takes : Part.fraction.Takes digits) :
    dropZone ('.' :: digits) = '.' :: digits := by
  rcases dropZone_cases ('.' :: digits) with ⟨z,zone,joined⟩ | same
  · have member : z ∈ '.' :: digits := joined ▸ List.mem_append_right _ (List.mem_singleton_self z)
    obtain ⟨d,either,same⟩ := takes_mark.mp zone
    obtain rfl := (List.cons.inj same).1
    rcases List.mem_cons.mp member with rfl | member
    · exact absurd either (by decide)
    · have ascii := (takes_fraction.mp takes).2 z member
      rcases either with rfl | rfl
      · exact absurd ascii (by decide)
      · exact absurd ascii (by decide)
  · exact same

private theorem readTail?_iff : readTail? tail = some micro ↔ ∃ ending ∈ endings, ∃ texts,
    List.Forall₂ Part.Takes ending texts ∧ texts.flatten = tail ∧ micros ending texts = micro := by
  rw [readTail?_cases]
  constructor
  · rintro (⟨nothing,rfl⟩ | ⟨digits,point,read⟩)
    · rcases dropZone_cases tail with ⟨z,zone,joined⟩ | same
      · rw [nothing] at joined
        exact ⟨[.mark 'Z'],by decide,[[z]],.cons zone .nil,joined,rfl⟩
      · exact ⟨[],by decide,[],.nil,nothing.symm.trans same,rfl⟩
    · obtain ⟨takes,value⟩ := fractionMicros?_iff.mp read
      have pointed : (Part.mark '.').Takes ['.'] := (takes_caseless rfl).mpr rfl
      rcases dropZone_cases tail with ⟨z,zone,joined⟩ | same
      · rw [point] at joined
        exact ⟨[.mark '.',.fraction,.mark 'Z'],by decide,[['.'],digits,[z]],
          .cons pointed (.cons takes (.cons zone .nil)),by simpa using joined,value⟩
      · exact ⟨[.mark '.',.fraction],by decide,[['.'],digits],.cons pointed (.cons takes .nil),
          by simpa using point.symm.trans same,value⟩
  · rintro ⟨ending,member,texts,takes,rfl,rfl⟩
    simp only [endings,List.mem_cons,List.not_mem_nil,or_false] at member
    rcases member with rfl | rfl | rfl | rfl
    · obtain ⟨_,_,point,⟨digits,_,fraction,⟨⟩,rfl⟩,rfl⟩ := by
        simpa only [List.forall₂_cons_left_iff] using takes
      obtain rfl := (takes_caseless rfl).mp point
      exact .inr ⟨digits,by simpa using dropZone_fraction fraction,
        fractionMicros?_iff.mpr ⟨fraction,rfl⟩⟩
    · cases takes
      exact .inl ⟨rfl,rfl⟩
    · obtain ⟨_,_,point,⟨digits,_,fraction,⟨_,_,zone,⟨⟩,rfl⟩,rfl⟩,rfl⟩ := by
        simpa only [List.forall₂_cons_left_iff] using takes
      obtain rfl := (takes_caseless rfl).mp point
      obtain ⟨z,_,rfl⟩ := takes_mark.mp zone
      exact .inr ⟨digits,by simpa using dropZone_of_zone zone ('.' :: digits),
        fractionMicros?_iff.mpr ⟨fraction,rfl⟩⟩
    · obtain ⟨_,_,zone,⟨⟩,rfl⟩ := by simpa only [List.forall₂_cons_left_iff] using takes
      obtain ⟨z,_,rfl⟩ := takes_mark.mp zone
      exact .inl ⟨dropZone_of_zone zone [],rfl⟩

private theorem head_ending {ending : List Part} (member : ending ∈ endings)
    (takes : List.Forall₂ Part.Takes ending texts) :
    ∀ c ∈ texts.flatten.head?, isDecimal c = false := by
  have marked : ∀ ending ∈ endings, ∀ part ∈ ending.head?, part.closes = true := by decide
  cases takes with
  | nil => simp
  | cons first _ =>
    obtain ⟨d,ends,rfl⟩ := Part.closes_takes (marked _ member _ rfl) first
    simpa using ends

end Endings

theorem skip?_iff {marks rest cs : List Char} :
    skip? marks cs = some rest ↔ ∃ c ∈ marks, c :: rest = cs := by
  cases cs with
  | nil => simp [skip?]
  | cons c cs => simp [skip?,eq_comm]

section Stem
variable {year month day hour minute second : List Char} {parting : Char} {ending : List Part}
  {texts : List (List Char)}

private def stemTexts (year month day hour minute second : List Char) (parting : Char) :
    List (List Char) :=
  [year,['-'],month,['-'],day,[parting],hour,[':'],minute,[':'],second]

/-- Whether the parts that every format begins with take the texts. -/
private structure IsStem (year month day hour minute second : List Char) (parting : Char) :
    Prop where
  year : Part.year.Takes year
  month : Part.month.Takes month
  day : Part.day.Takes day
  parting : (Part.mark 'T').Takes [parting]
  hour : Part.hour.Takes hour
  minute : Part.minute.Takes minute
  second : Part.second.Takes second

private theorem takes_stem (begins : IsStem year month day hour minute second parting)
    (takes : List.Forall₂ Part.Takes ending texts) : List.Forall₂ Part.Takes (stem ++ ending)
      (stemTexts year month day hour minute second parting ++ texts) := by
  have dash : (Part.mark '-').Takes ['-'] := (takes_caseless rfl).mpr rfl
  have colon : (Part.mark ':').Takes [':'] := (takes_caseless rfl).mpr rfl
  exact .cons begins.year (.cons dash (.cons begins.month (.cons dash (.cons begins.day
    (.cons begins.parting (.cons begins.hour (.cons colon (.cons begins.minute (.cons colon
      (.cons begins.second takes))))))))))

private theorem isStem_of_takes {all : List (List Char)}
    (takes : List.Forall₂ Part.Takes (stem ++ ending) all) :
    ∃ year month day hour minute second parting texts,
      IsStem year month day hour minute second parting ∧ List.Forall₂ Part.Takes ending texts ∧
        all = stemTexts year month day hour minute second parting ++ texts := by
  simp only [stem,List.cons_append,List.nil_append,List.forall₂_cons_left_iff] at takes
  obtain ⟨year,_,yearTakes,⟨_,_,dash,⟨month,_,monthTakes,⟨_,_,dash',⟨day,_,dayTakes,⟨_,_,between,
    ⟨hour,_,hourTakes,⟨_,_,colon,⟨minute,_,minuteTakes,⟨_,_,colon',⟨second,texts,secondTakes,
      takes,rfl⟩,rfl⟩,rfl⟩,rfl⟩,rfl⟩,rfl⟩,rfl⟩,rfl⟩,rfl⟩,rfl⟩,rfl⟩ := takes
  obtain rfl := (takes_caseless rfl).mp dash
  obtain rfl := (takes_caseless rfl).mp dash'
  obtain rfl := (takes_caseless rfl).mp colon
  obtain rfl := (takes_caseless rfl).mp colon'
  obtain ⟨parting,_,rfl⟩ := takes_mark.mp between
  exact ⟨year,month,day,hour,minute,second,parting,texts,
    ⟨yearTakes,monthTakes,dayTakes,between,hourTakes,minuteTakes,secondTakes⟩,takes,rfl⟩

private theorem named?_stem :
    named? (stem ++ ending) (stemTexts year month day hour minute second parting ++ texts) =
      (do
        let date ← Date.ofParts? (number year) (number month) (number day)
        let time ←
          TimeOfDay.ofParts? (number hour) (number minute) (number second) (micros ending texts)
        return ⟨date,time⟩) := by
  rfl

private theorem read?_stem (begins : IsStem year month day hour minute second parting)
    (member : ending ∈ endings) (takes : List.Forall₂ Part.Takes ending texts) :
    read? (stemTexts year month day hour minute second parting ++ texts).flatten =
      named? (stem ++ ending) (stemTexts year month day hour minute second parting ++ texts) := by
  have either : parting = 'T' ∨ parting = 't' := by simpa [takes_mark] using begins.parting
  have parted : isDecimal parting = false := by
    rcases either with rfl | rfl
    · decide
    · decide
  have tail := readTail?_iff.mpr ⟨ending,member,texts,takes,rfl,rfl⟩
  have separated {c : Char} (ends : isDecimal c = false) (rest : List Char) :
      ∀ d ∈ (c :: rest).head?, isDecimal d = false := by
    simpa using ends
  have dashed (rest : List Char) : skip? ['-'] ('-' :: rest) = some rest := rfl
  have coloned (rest : List Char) : skip? [':'] (':' :: rest) = some rest := rfl
  have halved (rest : List Char) : skip? ['T','t'] (parting :: rest) = some rest :=
    skip?_iff.mpr ⟨parting,by simpa using either,rfl⟩
  rw [named?_stem]
  simp only [stemTexts,read?,List.flatten_cons,List.cons_append,List.nil_append,
    Option.bind_eq_bind,readYear?_append begins.year,
    monthField_reads.read?_append begins.month (separated (c := '-') rfl _),
    dayField_reads.read?_append begins.day (separated parted _),
    hourField_reads.read?_append begins.hour (separated (c := ':') rfl _),
    minuteField_reads.read?_append begins.minute (separated (c := ':') rfl _),
    secondField_reads.read?_append begins.second (head_ending member takes),
    Option.bind_some,dashed,coloned,halved,tail]

end Stem

private theorem writes_of_read? {cs : List Char} {t : DateTime} (read : read? cs = some t) :
    ∃ format ∈ formats, Writes format cs t := by
  simp only [read?,Option.bind_eq_bind,Option.bind_eq_some_iff,Prod.exists,skip?_iff,
    exists_eq_left,List.mem_cons,List.not_mem_nil,or_false] at read
  obtain ⟨_,_,years,_,_,⟨_,rfl,months⟩,_,_,⟨_,rfl,days⟩,_,_,⟨_,⟨parting,either,rfl⟩,hours⟩,_,_,
    ⟨_,rfl,minutes⟩,_,_,⟨_,rfl,seconds⟩,_,rest,date,dated,time,timed,same⟩ := read
  obtain ⟨year,yearTakes,rfl,rfl⟩ := takes_of_readYear? years
  obtain ⟨month,monthTakes,rfl,rfl⟩ := monthField_reads.takes_of_read? months
  obtain ⟨day,dayTakes,rfl,rfl⟩ := dayField_reads.takes_of_read? days
  obtain ⟨hour,hourTakes,rfl,rfl⟩ := hourField_reads.takes_of_read? hours
  obtain ⟨minute,minuteTakes,rfl,rfl⟩ := minuteField_reads.takes_of_read? minutes
  obtain ⟨second,secondTakes,rfl,rfl⟩ := secondField_reads.takes_of_read? seconds
  obtain ⟨ending,member,texts,takes,rfl,rfl⟩ := readTail?_iff.mp rest
  have begins : IsStem year month day hour minute second parting :=
    ⟨yearTakes,monthTakes,dayTakes,takes_mark.mpr ⟨_,either,rfl⟩,hourTakes,minuteTakes,secondTakes⟩
  refine ⟨stem ++ ending,List.mem_map_of_mem member,
    stemTexts year month day hour minute second parting ++ texts,takes_stem begins takes,
    by simp [stemTexts],?_⟩
  rw [named?_stem,dated,Option.bind_eq_bind,Option.bind_some,timed]
  exact same

/-- A text is read exactly if one of the formats writes it. -/
theorem read?_iff {cs : List Char} {t : DateTime} :
    read? cs = some t ↔ ∃ format ∈ formats, Writes format cs t := by
  constructor
  · exact writes_of_read?
  · rintro ⟨format,known,texts,takes,rfl,names⟩
    obtain ⟨ending,member,rfl⟩ := List.mem_map.mp known
    obtain ⟨_,_,_,_,_,_,_,_,begins,ends,rfl⟩ := isStem_of_takes takes
    exact (read?_stem begins member ends).trans names

example : (read? "2024-2- 9t1:02:03.5z".toList).map iso = some "2024-02-09T01:02:03.500000" := by
  decide

/-- In whatever order the formats are tried, the first that accepts a text gives what the reader
gives. -/
theorem findSome?_readAs? {order : List (List Part)} (all : order.Perm formats) (cs : List Char) :
    order.findSome? (readAs? · cs) = read? cs := by
  cases found : order.findSome? (readAs? · cs) with
  | some t =>
    obtain ⟨format,member,reads⟩ := List.exists_of_findSome?_eq_some found
    have known := all.mem_iff.mp member
    exact (read?_iff.mpr ⟨format,known,(readAs?_iff known).mp reads⟩).symm
  | none =>
    symm
    rw [Option.eq_none_iff_forall_ne_some]
    intro t read
    obtain ⟨format,known,writes⟩ := read?_iff.mp read
    have silent := List.findSome?_eq_none_iff.mp found format (all.mem_iff.mpr known)
    rw [(readAs?_iff known).mpr writes] at silent
    cases silent

/-- A text is a timestamp exactly if its characters are those of the parts of one of the four
formats and name a point in time, which then is its value; every other text is refused. A text
belongs to one format at most, so the formats can be tried in any order. -/
theorem decodeTimestamp_text (t : Text) :
    (∀ time, Row.decodeTimestamp (.text t) = .ok (some time) ↔
      ∃ cs, t.chars? = some cs ∧ ∃ format ∈ formats, Writes format cs time) ∧
    ((∃ time, Row.decodeTimestamp (.text t) = .ok (some time)) ∨
      ∃ u, Row.decodeTimestamp (.text t) = .error u ∧
        u.failure = ⟨.undecodable,("invalid timestamp: " ++ (Json.text t).literal : String)⟩) ∧
    (∀ cs, ∀ format ∈ formats, ∀ other ∈ formats, (readAs? format cs).isSome →
      (readAs? other cs).isSome → format = other) ∧
    ∀ order : List (List Part), order.Perm formats →
      Row.decodeText "timestamp" (fun cs => order.findSome? (readAs? · cs)) (.text t) =
        Row.decodeTimestamp (.text t) := by
  refine ⟨fun time => ?_,?_,?_,?_⟩
  · have read : (t.chars? >>= read?) = some time ↔
        ∃ cs, t.chars? = some cs ∧ ∃ format ∈ formats, Writes format cs time := by
      simp only [← read?_iff,Option.bind_eq_bind,Option.bind_eq_some_iff]
    rw [← read,Row.decodeTimestamp,Row.decodeText]
    cases t.chars? >>= read? with
    | none => simp
    | some found => simp
  · rw [Row.decodeTimestamp,Row.decodeText]
    cases t.chars? >>= read? with
    | none => exact .inr ⟨_,rfl,rfl⟩
    | some time => exact .inl ⟨time,rfl⟩
  · intro cs format known other known' accepts accepts'
    obtain ⟨time,reads⟩ := Option.isSome_iff_exists.mp accepts
    obtain ⟨time',reads'⟩ := Option.isSome_iff_exists.mp accepts'
    obtain ⟨texts,takes,rfl,_⟩ := (readAs?_iff known).mp reads
    obtain ⟨texts',takes',same,_⟩ := (readAs?_iff known').mp reads'
    exact formats_disjoint known known' takes takes' same.symm
  · intro order all
    rw [Row.decodeTimestamp,funext (findSome?_readAs? all)]

end ScopedAnalytics.DateTime
