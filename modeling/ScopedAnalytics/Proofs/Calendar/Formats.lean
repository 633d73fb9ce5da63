import Mathlib.Data.List.Chain
import Mathlib.Data.List.Forall2
import ScopedAnalytics.Calendar.Timestamp

/-! The four formats of a timestamp, each on its own. A format is a list of parts, a part a list of
forms, and a form says for each character what it may be. A format reads a text by the first
way in which its parts take the start of the text, and refuses it when something is left over or
when the fields name no point in time. The reader of timestamps accepts what one of the formats
accepts, and no two formats accept the same text. -/
namespace ScopedAnalytics.DateTime
open Text (isDecimal)

/-- What a format consists of: fields and the marks around them. -/
inductive Part where
  | year
  | month
  | day
  | hour
  | minute
  | second
  | fraction
  | mark (c : Char)
deriving DecidableEq, Repr

/-- What the characters of a text may be, one after the other. -/
abbrev Form := List (Char → Bool)

def only (c : Char) : Char → Bool := (· == c)

/-- The forms of a part, in the order in which they are tried. A mark stands in either case. -/
def Part.forms : Part → List Form
  | year => [[isDecimal,isDecimal,isDecimal,isDecimal]]
  | month => [[only '1',between '0' '2'],[only '0',between '1' '9'],[between '1' '9']]
  | day =>
    [[only '3',between '0' '1'],[between '1' '2',isDecimal],[only '0',between '1' '9'],
      [between '1' '9'],[only ' ',between '1' '9']]
  | hour => [[only '2',between '0' '3'],[between '0' '1',isDecimal],[isDecimal]]
  | minute => [[between '0' '5',isDecimal],[isDecimal]]
  | second => [[only '6',between '0' '1'],[between '0' '5',isDecimal],[isDecimal]]
  | fraction => [6,5,4,3,2,1].map fun count => List.replicate count (between '0' '9')
  | mark c => [[fun d => d == c || d == c.toLower]]

def stem : List Part :=
  [.year,.mark '-',.month,.mark '-',.day,.mark 'T',.hour,.mark ':',.minute,.mark ':',.second]

/-- The ways in which a format ends: with a fraction or without, and with a zone or without. -/
def endings : List (List Part) :=
  [[.mark '.',.fraction],[],[.mark '.',.fraction,.mark 'Z'],[.mark 'Z']]

def formats : List (List Part) := endings.map (stem ++ ·)

/-- The text that a form takes from the start of a text, and the text after it. -/
def cut? : Form → List Char → Option (List Char × List Char)
  | [],cs => some ([],cs)
  | fits :: form,c :: cs =>
    if fits c then (cut? form cs).map fun (text,rest) => (c :: text,rest) else none
  | _ :: _,[] => none

/-- All ways in which the parts of a format take texts one after the other, the earlier forms of
the earlier parts first, each with the text that is left. -/
def scan : List Part → List Char → List (List (List Char) × List Char)
  | [],cs => [([],cs)]
  | part :: format,cs =>
    (part.forms.filterMap (cut? · cs)).flatMap fun (text,rest) =>
      (scan format rest).map fun (texts,left) => (text :: texts,left)

def number (text : List Char) : Nat := text.foldl (fun value c => value * 10 + place c) 0

/-- The microseconds of a fraction, which is filled up with zeros on the right. -/
def micros (format : List Part) (texts : List (List Char)) : Nat :=
  ((format.zip texts).lookup .fraction).elim 0 fun digits =>
    number (digits ++ List.replicate (6 - digits.length) '0')

/-- The point in time that the texts of a format's parts name, if they name one. -/
def named? (format : List Part) (texts : List (List Char)) : Option DateTime := do
  let value (part : Part) := ((format.zip texts).lookup part).elim 0 number
  let date ← Date.ofParts? (value .year) (value .month) (value .day)
  let time ← TimeOfDay.ofParts? (value .hour) (value .minute) (value .second) (micros format texts)
  return ⟨date,time⟩

def readAs? (format : List Part) (cs : List Char) : Option DateTime :=
  match (scan format cs).head? with
  | some (texts,[]) => named? format texts
  | _ => none

def Part.Takes (part : Part) (text : List Char) : Prop :=
  ∃ form ∈ part.forms, List.Forall₂ (fun fits c => fits c = true) form text

/-- Whether a text consists of texts of a format's parts that name a point in time. -/
def Writes (format : List Part) (cs : List Char) (t : DateTime) : Prop :=
  ∃ texts, List.Forall₂ Part.Takes format texts ∧ texts.flatten = cs ∧
    named? format texts = some t

section Parts
variable {part : Part} {text rest : List Char} {c d : Char}

private theorem cut?_iff {form : Form} {cs text rest : List Char} :
    cut? form cs = some (text,rest) ↔
      List.Forall₂ (fun fits c => fits c = true) form text ∧ text ++ rest = cs := by
  induction form generalizing cs text with
  | nil =>
    rw [cut?,List.forall₂_nil_left_iff]
    constructor
    · rintro ⟨⟩
      exact ⟨rfl,rfl⟩
    · rintro ⟨rfl,rfl⟩
      rfl
  | cons fits form ih =>
    cases cs with
    | nil =>
      rw [cut?,List.forall₂_cons_left_iff]
      constructor
      · rintro ⟨⟩
      · rintro ⟨⟨c,text,_,_,rfl⟩,joined⟩
        cases joined
    | cons c cs =>
      rw [cut?]
      split
      · rename_i fit
        rw [Option.map_eq_some_iff]
        constructor
        · rintro ⟨⟨text,rest⟩,found,⟨⟩⟩
          obtain ⟨taken,rfl⟩ := ih.mp found
          exact ⟨.cons fit taken,rfl⟩
        · rintro ⟨taken,joined⟩
          obtain ⟨b,others,_,fitting,rfl⟩ := List.forall₂_cons_left_iff.mp taken
          obtain ⟨rfl,behind⟩ := List.cons.inj joined
          exact ⟨(others,rest),ih.mpr ⟨fitting,behind⟩,rfl⟩
      · rename_i unfit
        constructor
        · rintro ⟨⟩
        · rintro ⟨taken,joined⟩
          obtain ⟨b,text,fit,_,rfl⟩ := List.forall₂_cons_left_iff.mp taken
          obtain ⟨rfl,_⟩ := List.cons.inj joined
          exact absurd fit unfit

private theorem mem_cuts {cs : List Char} :
    (text,rest) ∈ part.forms.filterMap (cut? · cs) ↔ part.Takes text ∧ text ++ rest = cs := by
  rw [List.mem_filterMap]
  constructor
  · rintro ⟨form,member,found⟩
    obtain ⟨taken,joined⟩ := cut?_iff.mp found
    exact ⟨⟨form,member,taken⟩,joined⟩
  · rintro ⟨⟨form,member,taken⟩,joined⟩
    exact ⟨form,member,cut?_iff.mpr ⟨taken,joined⟩⟩

private theorem mem_scan {format : List Part} {texts : List (List Char)} {cs rest : List Char} :
    (texts,rest) ∈ scan format cs ↔
      List.Forall₂ Part.Takes format texts ∧ texts.flatten ++ rest = cs := by
  induction format generalizing cs texts with
  | nil =>
    rw [scan,List.mem_singleton,Prod.mk.injEq,List.forall₂_nil_left_iff]
    constructor
    · rintro ⟨rfl,rfl⟩
      exact ⟨rfl,rfl⟩
    · rintro ⟨rfl,rfl⟩
      exact ⟨rfl,rfl⟩
  | cons part format ih =>
    rw [scan,List.mem_flatMap,List.forall₂_cons_left_iff]
    constructor
    · rintro ⟨⟨text,after⟩,first,others⟩
      obtain ⟨⟨texts,left⟩,found,⟨⟩⟩ := List.mem_map.mp others
      obtain ⟨takes,rfl⟩ := mem_cuts.mp first
      obtain ⟨taken,rfl⟩ := ih.mp found
      exact ⟨⟨text,texts,takes,taken,rfl⟩,by simp⟩
    · rintro ⟨⟨text,texts,takes,taken,rfl⟩,rfl⟩
      exact ⟨(text,texts.flatten ++ rest),mem_cuts.mpr ⟨takes,by simp⟩,
        List.mem_map.mpr ⟨(texts,rest),ih.mpr ⟨taken,rfl⟩,rfl⟩⟩

theorem takes_mark : (Part.mark c).Takes text ↔ ∃ d, (d = c ∨ d = c.toLower) ∧ text = [d] := by
  simp only [Part.Takes,Part.forms,List.mem_singleton,exists_eq_left,List.forall₂_cons_left_iff,
    List.forall₂_nil_left_iff,Bool.or_eq_true,beq_iff_eq]
  constructor
  · rintro ⟨d,_,same,rfl,rfl⟩
    exact ⟨d,same,rfl⟩
  · rintro ⟨d,same,rfl⟩
    exact ⟨d,[],same,rfl,rfl⟩

private theorem isDecimal_of_between {low high : Char} (above : '0' ≤ low) (below : high ≤ '9')
    (inside : between low high c = true) : isDecimal c = true := by
  obtain ⟨first,last⟩ := (Bool.and_eq_true _ _).mp inside
  have digit : ('0' ≤ c && c ≤ '9') = true :=
    (Bool.and_eq_true _ _).mpr
      ⟨decide_eq_true (Char.le_trans above (of_decide_eq_true first)),
        decide_eq_true (Char.le_trans (of_decide_eq_true last) below)⟩
  rw [isDecimal,Text.decimalValue?,if_pos digit]
  rfl

private theorem decimal_of_fitting {form : Form}
    (fitting : List.Forall₂ (fun fits c => fits c = true) form text)
    (decimal : ∀ fits ∈ form, ∀ c, fits c = true → isDecimal c = true) :
    ∀ c ∈ text, isDecimal c = true := by
  induction fitting with
  | nil => simp
  | cons fit _ ih =>
    obtain ⟨first,others⟩ := List.forall_mem_cons.mp decimal
    exact List.forall_mem_cons.mpr ⟨first _ fit,ih others⟩

/-- A field begins with a digit or a space, and digits follow. -/
theorem takes_digits (field : ∀ c, part ≠ .mark c) (takes : part.Takes text) :
    ∃ c digits, text = c :: digits ∧ (isDecimal c = true ∨ c = ' ') ∧
      ∀ d ∈ digits, isDecimal d = true := by
  obtain ⟨form,member,fitting⟩ := takes
  have digit {low high : Char} (above : '0' ≤ low) (below : high ≤ '9') (c : Char) :
      between low high c = true → isDecimal c = true := isDecimal_of_between above below
  have forms : ∃ first others, form = first :: others ∧
      (∀ c, first c = true → isDecimal c = true ∨ c = ' ') ∧
      ∀ fits ∈ others, ∀ c, fits c = true → isDecimal c = true := by
    cases part with
    | mark c => exact absurd rfl (field c)
    | fraction =>
      obtain ⟨count,among,rfl⟩ := List.mem_map.mp member
      have positive : count ≠ 0 := by
        rintro rfl
        exact absurd among (by decide)
      obtain ⟨count,rfl⟩ := Nat.exists_eq_succ_of_ne_zero positive
      refine ⟨_,_,rfl,fun c fit => .inl (digit (by decide) (by decide) c fit),
        fun fits among => ?_⟩
      rw [List.eq_of_mem_replicate among]
      exact digit (by decide) (by decide)
    | _ =>
      simp only [Part.forms,List.mem_cons,List.not_mem_nil,or_false] at member
      rcases member with rfl | rfl | rfl | rfl | rfl <;> refine ⟨_,_,rfl,fun c fit => ?_,?_⟩
      all_goals
        first
        | exact .inl fit
        | exact .inl (digit (by decide) (by decide) c fit)
        | exact .inl (beq_iff_eq.mp fit ▸ by decide)
        | exact .inr (beq_iff_eq.mp fit)
        | simp only [List.forall_mem_cons,List.not_mem_nil,false_imp_iff,imp_self,implies_true,
            and_true]
      all_goals exact digit (by decide) (by decide)
  obtain ⟨first,others,rfl,front,decimal⟩ := forms
  obtain ⟨c,digits,fit,following,rfl⟩ := List.forall₂_cons_left_iff.mp fitting
  exact ⟨c,digits,rfl,front c fit,decimal_of_fitting following decimal⟩

end Parts

section Scanning

/-- Marks that no digit is taken for. -/
def Part.closes : Part → Bool
  | mark c => !isDecimal c && !isDecimal c.toLower
  | _ => false

theorem Part.closes_takes {part : Part} {text : List Char} (closes : part.closes = true)
    (takes : part.Takes text) : ∃ d, isDecimal d = false ∧ text = [d] := by
  cases part with
  | mark c =>
    obtain ⟨upper,lower⟩ := (Bool.and_eq_true _ _).mp closes
    obtain ⟨d,rfl | rfl,rfl⟩ := takes_mark.mp takes
    · exact ⟨d,by simpa using upper,rfl⟩
    · exact ⟨_,by simpa using lower,rfl⟩
  | _ => cases closes

private theorem digits_eq {digits others rest left : List Char} {c d : Char}
    (all : ∀ a ∈ digits, isDecimal a = true) (all' : ∀ a ∈ others, isDecimal a = true)
    (ends : isDecimal c = false) (ends' : isDecimal d = false)
    (same : digits ++ c :: rest = others ++ d :: left) : digits = others := by
  have taken := congrArg (List.takeWhile isDecimal) same
  rwa [List.takeWhile_append_of_pos all,List.takeWhile_append_of_pos all',
    List.takeWhile_cons_of_neg (by simp [ends]),List.takeWhile_cons_of_neg (by simp [ends']),
    List.append_nil,List.append_nil] at taken

/-- What a part takes of a text is settled if it is a mark or a mark has to follow. -/
private theorem takes_unique {part next : Part} {text other mark mark' rest left : List Char}
    (marked : part.closes = true ∨ next.closes = true)
    (takes : part.Takes text) (takes' : part.Takes other)
    (follows : next.Takes mark) (follows' : next.Takes mark')
    (same : text ++ (mark ++ rest) = other ++ (mark' ++ left)) : text = other := by
  by_cases field : ∀ c, part ≠ .mark c
  · have closes : next.closes = true := by
      rcases marked with closes | closes
      · cases part with
        | mark c => exact absurd rfl (field c)
        | _ => cases closes
      · exact closes
    obtain ⟨a,digits,rfl,_,decimal⟩ := takes_digits field takes
    obtain ⟨b,digits',rfl,_,decimal'⟩ := takes_digits field takes'
    obtain ⟨c,ends,rfl⟩ := Part.closes_takes closes follows
    obtain ⟨d,ends',rfl⟩ := Part.closes_takes closes follows'
    obtain ⟨rfl,behind⟩ := List.cons.inj same
    rw [digits_eq decimal decimal' ends ends' behind]
  · simp only [not_forall,not_not] at field
    obtain ⟨c,rfl⟩ := field
    obtain ⟨a,_,rfl⟩ := takes_mark.mp takes
    obtain ⟨b,_,rfl⟩ := takes_mark.mp takes'
    rw [(List.cons.inj same).1]

private theorem cuts_head {forms : List Form} {cs : List Char}
    (shrinking : (forms.map List.length).Pairwise (· ≥ ·))
    (takes : ∃ form ∈ forms, List.Forall₂ (fun fits c => fits c = true) form cs) :
    (forms.filterMap (cut? · cs)).head? = some (cs,[]) := by
  induction forms with
  | nil => exact absurd takes (by simp)
  | cons form forms ih =>
    rw [List.map_cons,List.pairwise_cons] at shrinking
    obtain ⟨longest,shrinking⟩ := shrinking
    cases found : cut? form cs with
    | none =>
      simp only [List.filterMap_cons,found]
      obtain ⟨fitting,member,fits⟩ := takes
      rcases List.mem_cons.mp member with rfl | member
      · rw [cut?_iff.mpr ⟨fits,List.append_nil cs⟩] at found
        cases found
      · exact ih shrinking ⟨fitting,member,fits⟩
    | some taken =>
      obtain ⟨text,rest⟩ := taken
      obtain ⟨fits,joined⟩ := cut?_iff.mp found
      simp only [List.filterMap_cons,found,List.head?_cons]
      have whole : cs.length ≤ text.length := by
        obtain ⟨fitting,member,fits'⟩ := takes
        rw [← fits.length_eq,← fits'.length_eq]
        rcases List.mem_cons.mp member with rfl | member
        · exact le_rfl
        · exact longest _ (List.mem_map_of_mem member)
      have nothing : rest = [] := by
        rw [← joined,List.length_append] at whole
        exact List.length_eq_zero_iff.mp (by omega)
      rw [← joined,nothing,List.append_nil]

private theorem findSome?_of_settled {α β : Type} {f : α → Option β} {items : List α} {item : α}
    {b : β} (member : item ∈ items) (value : f item = some b)
    (settled : ∀ a ∈ items, f a ≠ none → a = item) : items.findSome? f = some b := by
  cases found : items.findSome? f with
  | none =>
    rw [List.findSome?_eq_none_iff.mp found item member] at value
    cases value
  | some c =>
    obtain ⟨a,among,first⟩ := List.exists_of_findSome?_eq_some found
    obtain rfl := settled a among (by simp [first])
    exact first.symm.trans value

/-- Whatever a part takes of a text so that those after it can go on is the text that it wrote. -/
private theorem cuts_settled {part next : Part} {format : List Part}
    {text cs taken rest : List Char} {others : List (List Char)}
    (marked : part.closes = true ∨ next.closes = true) (takes : part.Takes text)
    (following : List.Forall₂ Part.Takes (next :: format) others)
    (joined : text ++ others.flatten = cs) (cut : (taken,rest) ∈ part.forms.filterMap (cut? · cs))
    (goesOn : scan (next :: format) rest ≠ []) : taken = text ∧ rest = others.flatten := by
  obtain ⟨⟨texts,left⟩,found⟩ := List.exists_mem_of_ne_nil _ goesOn
  obtain ⟨takes',split⟩ := mem_cuts.mp cut
  obtain ⟨following',continued⟩ := mem_scan.mp found
  obtain ⟨mark,_,follows,_,rfl⟩ := List.forall₂_cons_left_iff.mp following
  obtain ⟨mark',_,follows',_,rfl⟩ := List.forall₂_cons_left_iff.mp following'
  have same := split.trans joined.symm
  rw [← continued,List.flatten_cons,List.flatten_cons,List.append_assoc] at same
  have equal := takes_unique marked takes' takes follows' follows same
  rw [← joined,equal] at split
  exact ⟨equal,List.append_cancel_left split⟩

/-- A format finds the one way in which its parts make up a text, although it takes the first
that fits the start of the text. -/
private theorem scan_head {format : List Part} {cs : List Char} {texts : List (List Char)}
    (alternating : format.IsChain fun part next => part.closes = true ∨ next.closes = true)
    (shrinking : ∀ part ∈ format.getLast?, (part.forms.map List.length).Pairwise (· ≥ ·))
    (takes : List.Forall₂ Part.Takes format texts) (joined : texts.flatten = cs) :
    (scan format cs).head? = some (texts,[]) := by
  induction format generalizing cs texts with
  | nil =>
    cases takes
    cases joined
    rfl
  | cons part format ih =>
    obtain ⟨text,others,first,following,rfl⟩ := List.forall₂_cons_left_iff.mp takes
    rw [List.flatten_cons] at joined
    cases format with
    | nil =>
      cases following
      rw [List.flatten_nil,List.append_nil] at joined
      subst joined
      obtain ⟨cuts,whole⟩ := List.head?_eq_some_iff.mp (cuts_head (shrinking part rfl) first)
      rw [scan,whole]
      rfl
    | cons next format =>
      rw [List.isChain_cons_cons] at alternating
      have remaining : (scan (next :: format) others.flatten).head? = some (others,[]) :=
        ih alternating.2 (fun last member => shrinking last (by simpa using member)) following rfl
      rw [scan,List.head?_flatMap]
      refine findSome?_of_settled (mem_cuts.mpr ⟨first,joined⟩) ?_ ?_
      · rw [List.head?_map,remaining]
        rfl
      · rintro ⟨taken,rest⟩ member found
        have goesOn : scan (next :: format) rest ≠ [] := by
          intro nothing
          rw [List.head?_map,nothing] at found
          exact found rfl
        obtain ⟨rfl,rfl⟩ := cuts_settled alternating.1 first following joined member goesOn
        rfl

private theorem alternating : ∀ format ∈ formats,
    format.IsChain fun part next => part.closes = true ∨ next.closes = true := by
  decide

private theorem shrinking : ∀ format ∈ formats, ∀ part ∈ format.getLast?,
    (part.forms.map List.length).Pairwise (· ≥ ·) := by
  decide

/-- A format accepts a text exactly if its parts make up the whole text and name a point in time. -/
theorem readAs?_iff {format : List Part} (known : format ∈ formats) {cs : List Char}
    {t : DateTime} : readAs? format cs = some t ↔ Writes format cs t := by
  constructor
  · intro read
    rw [readAs?] at read
    split at read
    · rename_i texts found
      obtain ⟨takes,joined⟩ := mem_scan.mp (List.mem_of_head? found)
      exact ⟨texts,takes,(List.append_nil _).symm.trans joined,read⟩
    · cases read
  · rintro ⟨texts,takes,joined,names⟩
    rw [readAs?,scan_head (alternating format known) (shrinking format known) takes joined]
    exact names

end Scanning

section Telling

def Part.mark? : Part → Option Char
  | mark c => some c
  | _ => none

/-- Whether a mark stands somewhere in a text, in either case. -/
def Marked (mark : Char) (text : List Char) : Prop := ∃ c ∈ text, c ∈ [mark,mark.toLower]

/-- Whether a mark stands in no field and is told from every other mark. -/
def Telling (mark : Char) : Prop :=
  (∀ c ∈ [mark,mark.toLower], isDecimal c = false ∧ c ≠ ' ') ∧
    ∀ other ∈ ['-','T',':','.','Z'], ∀ c ∈ [other,other.toLower],
      c ∈ [mark,mark.toLower] ↔ other = mark

instance (mark : Char) : Decidable (Telling mark) :=
  decidable_of_iff
    (([mark,mark.toLower].all fun c => isDecimal c = false ∧ c ≠ ' ') ∧
      ['-','T',':','.','Z'].all fun other =>
        [other,other.toLower].all fun c => c ∈ [mark,mark.toLower] ↔ other = mark)
    (by simp only [Telling,List.all_eq_true,decide_eq_true_eq])

private theorem marked_takes {mark : Char} (telling : Telling mark) {part : Part}
    (known : part.mark?.all (· ∈ ['-','T',':','.','Z']) = true) {text : List Char}
    (takes : part.Takes text) : Marked mark text ↔ part = .mark mark := by
  by_cases field : ∀ c, part ≠ .mark c
  · refine iff_of_false ?_ (field mark)
    rintro ⟨c,member,either⟩
    obtain ⟨decimal,blank⟩ := telling.1 c either
    obtain ⟨first,digits,rfl,front,following⟩ := takes_digits field takes
    rcases List.mem_cons.mp member with rfl | member
    · rcases front with digit | space
      · simp [digit] at decimal
      · exact blank space
    · simp [following c member] at decimal
  · simp only [not_forall,not_not] at field
    obtain ⟨other,rfl⟩ := field
    obtain ⟨c,either,rfl⟩ := takes_mark.mp takes
    have listed : other ∈ ['-','T',':','.','Z'] := of_decide_eq_true known
    rw [Part.mark.injEq,← telling.2 other listed c (by simpa using either)]
    simp [Marked]

private theorem marked_flatten {mark : Char} (telling : Telling mark) {format : List Part}
    {texts : List (List Char)}
    (known : ∀ part ∈ format, part.mark?.all (· ∈ ['-','T',':','.','Z']) = true)
    (takes : List.Forall₂ Part.Takes format texts) :
    Marked mark texts.flatten ↔ Part.mark mark ∈ format := by
  induction takes with
  | nil => simp [Marked]
  | cons first _ ih =>
    obtain ⟨known,others⟩ := List.forall_mem_cons.mp known
    rw [List.mem_cons,eq_comm,← marked_takes telling known first,← ih others,List.flatten_cons]
    simp [Marked,or_and_right,exists_or]

/-- No text consists of the parts of two formats. -/
theorem formats_disjoint {format other : List Part} (known : format ∈ formats)
    (known' : other ∈ formats) {texts texts' : List (List Char)}
    (takes : List.Forall₂ Part.Takes format texts) (takes' : List.Forall₂ Part.Takes other texts')
    (same : texts.flatten = texts'.flatten) : format = other := by
  have marks : ∀ format ∈ formats, ∀ part ∈ format,
      part.mark?.all (· ∈ ['-','T',':','.','Z']) = true := by
    decide
  have told : ∀ format ∈ formats, ∀ other ∈ formats,
      (Part.mark '.' ∈ format ↔ Part.mark '.' ∈ other) →
      (Part.mark 'Z' ∈ format ↔ Part.mark 'Z' ∈ other) → format = other := by
    decide
  have shared (mark : Char) (telling : Telling mark) :
      Part.mark mark ∈ format ↔ Part.mark mark ∈ other := by
    rw [← marked_flatten telling (marks _ known) takes,same,
      marked_flatten telling (marks _ known') takes']
  exact told format known other known' (shared '.' (by decide))
    (shared 'Z' (by decide))

end Telling
end ScopedAnalytics.DateTime
