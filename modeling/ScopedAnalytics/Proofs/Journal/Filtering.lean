import ScopedAnalytics.Journal.Threshold
import ScopedAnalytics.Proofs.Except
import ScopedAnalytics.Proofs.Json.Written
import ScopedAnalytics.Proofs.Numeral.Writing

/-! What a journal of JSON lines keeps. A text is the name of a level in any case, or stands for
information; two names are known for something else and open no journal. Each entry that is grave enough
has a line, in order, and a stricter journal leaves out lines of a laxer one. -/
namespace ScopedAnalytics

namespace Threshold

/-- Whether a text is a name, in any case. -/
def Spells (text name : String) : Prop := text.toList.flatMap capitals = name.toList

instance (text name : String) : Decidable (Spells text name) := inferInstanceAs (Decidable (_ = _))

/-- The name under which something other than a level is known. -/
def Fault.known : Fault → String
  | layout => "BASIC_FORMAT"
  | styles => "_STYLES"

section Names
variable {text name : String} {rank : Nat} {fault : Fault}

theorem spells_iff : Spells text name ↔ String.ofList (text.toList.flatMap capitals) = name := by
  constructor
  · intro same
    rw [Spells] at same
    rw [same,String.ofList_toList]
  · rintro rfl
    rw [Spells,String.toList_ofList]

theorem capitals_of_toUpper {c : Char} (letter : c.toUpper.isUpper = true) :
    capitals c = [c.toUpper] := by
  -- The characters with more letters or another letter for a capital are none that `toUpper` changes.
  unfold capitals
  split <;> first | rfl | exact absurd letter (by decide)

theorem spells_of_toUpper (listed : (name,rank) ∈ named)
    (alike : text.toList.map Char.toUpper = name.toList) : Spells text name := by
  have all : named.all (fun entry => entry.1.toList.all Char.isUpper) = true := by decide
  have letters : ∀ entry ∈ named, ∀ c ∈ entry.1.toList, c.isUpper = true := by
    simpa only [List.all_eq_true] using all
  have each : ∀ c ∈ text.toList, capitals c = [c.toUpper] := by
    intro c member
    apply capitals_of_toUpper
    apply letters _ listed
    rw [← alike]
    exact List.mem_map_of_mem member
  rw [Spells,← alike,List.flatMap_congr each,List.map_eq_flatMap]

theorem lookup_named (listed : (name,rank) ∈ named) : named.lookup name = some rank := by
  have all : ∀ entry ∈ named, named.lookup entry.1 = some entry.2 := by decide
  exact all _ listed

theorem read_of_named (listed : (name,rank) ∈ named) (spelt : Spells text name) :
    read text = .ok rank := by
  rw [spells_iff] at spelt
  simp only [read,spelt,lookup_named listed]

theorem read_of_known (spelt : Spells text fault.known) : read text = .error fault := by
  rw [spells_iff] at spelt
  unfold read
  rw [spelt]
  cases fault with
  | layout => decide
  | styles => decide

theorem read_of_unknown (unnamed : ∀ entry ∈ named, ¬Spells text entry.1)
    (unknown : ∀ fault : Fault, ¬Spells text fault.known) : read text = .ok Level.info.rank := by
  simp only [spells_iff] at unnamed unknown
  unfold read
  have absent : named.lookup (String.ofList (text.toList.flatMap capitals)) = none := by
    refine List.lookup_eq_none_iff.mpr fun entry listed => ?_
    simpa using unnamed entry listed
  have layout : String.ofList (text.toList.flatMap capitals) ≠ "BASIC_FORMAT" := unknown .layout
  have styles : String.ofList (text.toList.flatMap capitals) ≠ "_STYLES" := unknown .styles
  simp only [absent,if_neg layout,if_neg styles]

/-- A text is refused if it spells the name of something else. -/
theorem read_error_iff : read text = .error fault ↔ Spells text fault.known := by
  refine ⟨fun refused => ?_,read_of_known⟩
  by_cases unknown : ∀ fault : Fault, ¬Spells text fault.known
  · by_cases unnamed : ∀ entry ∈ named, ¬Spells text entry.1
    · cases refused.symm.trans (read_of_unknown unnamed unknown)
    · push Not at unnamed
      obtain ⟨⟨name,rank⟩,listed,spelt⟩ := unnamed
      cases refused.symm.trans (read_of_named listed spelt)
  · push Not at unknown
    obtain ⟨other,spelt⟩ := unknown
    obtain rfl := Except.error.inj (refused.symm.trans (read_of_known spelt))
    exact spelt

end Names

end Threshold

namespace Journal

/-- The line of an entry that can be written, without its line end. -/
def jsonLine (entry : Entry) : String := (Json.ofMembers (line entry)).writtenAt false 0

/-- What is written of texts, each with a line end after it. -/
def stream (texts : List String) : List Char := texts.flatMap fun text => text.toList ++ ['\n']

/-- An entry with fields that it can have: none has the name of what makes the entry, and no record with
a name of its own is among them. -/
structure IsPossible (entry : Entry) : Prop where
  untaken : ∀ field ∈ entry.fields,
    field.1 ≠ "event" ∧ field.1 ≠ "self" ∧ field.1 ≠ "method_name"
  unrecorded : ∀ found, field? entry "_record" = some found → found = .null

/-- An entry that has a line: it can be made, and no value that it brings to the line holds an integer
of too many digits. -/
structure IsWritable (entry : Entry) : Prop extends IsPossible entry where
  writable : ∀ value ∈ lineValues entry, value.isWritable = true

/-- The texts of a journal that keeps what is at least of a rank. -/
structure Keeps (rank : Nat) (entries : List Entry) (texts : List String) : Prop where
  kept : texts = (entries.filter fun entry => rank ≤ entry.level.rank).map jsonLine
  lines : Text.lines (stream texts) = texts.map String.toList

section Writing
variable {level : String} {rank : Nat} {entry : Entry} {entries : List Entry} {written : List String}

theorem field?_isSome_iff {name : String} :
    (field? entry name).isSome = true ↔ ∃ field ∈ entry.fields, field.1 = name := by
  rw [field?,List.lookup_isSome_iff]
  simp only [beq_iff_eq,eq_comm (a := name)]

theorem checkNames_ok_iff : checkNames entry = .ok () ↔ IsPossible entry := by
  unfold checkNames
  constructor
  · intro fine
    split at fine
    · cases fine
    · rename_i untaken
      split at fine
      · cases fine
      · rename_i unnamed
        rw [List.find?_eq_none] at untaken
        rw [field?_isSome_iff] at unnamed
        refine ⟨fun field member => ?_,fun found recorded => ?_⟩
        · have apart : ¬(field.1 = "event" ∨ field.1 = "self") := by simpa using untaken field member
          exact ⟨fun same => apart (.inl same),fun same => apart (.inr same),
            fun same => unnamed ⟨field,member,same⟩⟩
        · rw [recorded] at fine
          cases found with
          | null => rfl
          | _ => cases fine
  · intro possible
    have untaken : entry.fields.find? (fun field => field.1 = "event" ∨ field.1 = "self") = none := by
      refine List.find?_eq_none.mpr fun field member => ?_
      obtain ⟨event,self,_⟩ := possible.untaken field member
      simpa using ⟨event,self⟩
    have unnamed : ¬(field? entry "method_name").isSome = true := by
      rw [field?_isSome_iff]
      rintro ⟨field,member,same⟩
      exact (possible.untaken field member).2.2 same
    rw [untaken]
    simp only [unnamed]
    cases recorded : field? entry "_record" with
    | none => rfl
    | some found => rw [possible.unrecorded found recorded]; rfl

/-- What keeps an entry from having a line is a name that its fields may not have, or else an integer
of too many digits. -/
theorem written_json (entry : Entry) : Journal.written .json entry = checkNames entry >>= fun _ =>
    if (lineValues entry).all Json.isWritable then .ok (jsonLine entry) else .error .unwritable := rfl

theorem written_json_ok_iff {text : String} :
    Journal.written .json entry = .ok text ↔ IsWritable entry ∧ text = jsonLine entry := by
  rw [written_json,except_bind_ok_iff]
  constructor
  · rintro ⟨_,fine,ok⟩
    split at ok
    · rename_i writable
      exact ⟨⟨checkNames_ok_iff.mp fine,List.all_eq_true.mp writable⟩,(Except.ok.inj ok).symm⟩
    · cases ok
  · rintro ⟨⟨possible,writable⟩,rfl⟩
    exact ⟨(),checkNames_ok_iff.mpr possible,if_pos (List.all_eq_true.mpr writable)⟩

theorem written_json_error_iff {fault : Fault} : Journal.written .json entry = .error fault ↔
    checkNames entry = .error fault ∨
      IsPossible entry ∧ ¬IsWritable entry ∧ fault = .unwritable := by
  rw [written_json,except_bind_error,← checkNames_ok_iff]
  refine or_congr Iff.rfl ⟨?_,?_⟩
  · rintro ⟨_,fine,failed⟩
    split at failed
    · cases failed
    · rename_i unwritable
      refine ⟨fine,fun entire => unwritable ?_,(Except.error.inj failed).symm⟩
      exact List.all_eq_true.mpr entire.writable
  · rintro ⟨fine,unwritable,rfl⟩
    refine ⟨(),fine,if_neg fun all => unwritable ?_⟩
    exact ⟨checkNames_ok_iff.mp fine,List.all_eq_true.mp all⟩

theorem lines_stream (entries : List Entry) :
    Text.lines (stream (entries.map jsonLine)) = (entries.map jsonLine).map String.toList := by
  induction entries with
  | nil => rfl
  | cons entry entries ih =>
    rw [List.map_cons,stream,List.flatMap_cons,List.append_assoc,List.singleton_append,jsonLine,
      Json.lines_writtenAt]
    exact congrArg (_ :: ·) ih

theorem texts_json (rank : Nat) (writable : ∀ entry ∈ entries, IsWritable entry) :
    Journal.texts .json rank entries = .ok ((kept rank entries).map jsonLine) := by
  have each (shown : List Entry) (part : shown ⊆ entries) :
      shown.mapM (Journal.written .json) = .ok (shown.map jsonLine) := by
    rw [mapM_ok_iff,List.forall₂_map_right_iff,List.forall₂_same]
    intro entry member
    exact written_json_ok_iff.mpr ⟨writable entry (part member),rfl⟩
  rw [Journal.texts,each entries (List.Subset.refl _)]
  exact each _ List.filter_sublist.subset

theorem texts_error {form : LineForm} {fault : Fault} (rank : Nat)
    (failed : entries.mapM (Journal.written form) = .error fault) :
    Journal.texts form rank entries = .error fault := by
  rw [Journal.texts,failed]
  rfl

theorem texts_ok_writable (ok : Journal.texts .json rank entries = .ok written) :
    ∀ entry ∈ entries, IsWritable entry := by
  obtain ⟨all,made,_⟩ := except_bind_ok ok
  intro entry member
  obtain ⟨text,_,here⟩ := forall₂_right (mapM_forall₂ made).flip entry member
  exact (written_json_ok_iff.mp here).1

theorem kept_sublist {lower : Nat} (stricter : lower ≤ rank) (entries : List Entry) :
    (kept rank entries).Sublist (kept lower entries) := by
  apply List.monotone_filter_right
  intro entry grave
  simp only [decide_eq_true_eq] at grave ⊢
  exact Nat.le_trans stricter grave

end Writing

section Opening
variable {level strict lax : String} {rank lower : Nat} {entry : Entry} {entries before after : List Entry}
  {written : List String}

theorem opened_of_named {form : LineForm} (named : Threshold.read level = .ok rank) :
    opened level form entries =
      ((Journal.texts form rank entries).mapError Fault.failure).map fun texts => (rank,texts) := by
  rw [opened,named]
  rfl

theorem opened_ok_iff : opened level .json entries = .ok (rank,written) ↔
    Threshold.read level = .ok rank ∧ (∀ entry ∈ entries, IsWritable entry) ∧
      written = (kept rank entries).map jsonLine := by
  constructor
  · intro ok
    obtain ⟨threshold,named,ok⟩ := except_bind_ok ok
    obtain ⟨texts,made,ok⟩ := except_bind_ok ok
    obtain ⟨rfl,rfl⟩ := Prod.mk.inj (Except.ok.inj ok)
    have made := mapError_ok made
    have writable := texts_ok_writable made
    exact ⟨mapError_ok named,writable,Except.ok.inj (made.symm.trans (texts_json threshold writable))⟩
  · rintro ⟨named,writable,rfl⟩
    rw [opened_of_named named,texts_json rank writable]
    rfl

/-- A journal of entries that can be written keeps those that are grave enough. -/
theorem opened_keeps (named : Threshold.read level = .ok rank)
    (writable : ∀ entry ∈ entries, IsWritable entry) :
    ∃ texts, opened level .json entries = .ok (rank,texts) ∧ Keeps rank entries texts :=
  ⟨_,opened_ok_iff.mpr ⟨named,writable,rfl⟩,rfl,lines_stream _⟩

theorem opened_fails {fault : Fault} (named : Threshold.read level = .ok rank)
    (writable : ∀ entry ∈ before, IsWritable entry)
    (failed : checkNames entry = .error fault ∨
      IsPossible entry ∧ ¬IsWritable entry ∧ fault = .unwritable) :
    opened level .json (before ++ entry :: after) = .error fault.failure := by
  have first : (before ++ entry :: after).mapM (Journal.written .json) = .error fault := by
    refine mapM_error.mpr ⟨before,entry,after,rfl,fun other member => ?_,?_⟩
    · exact ⟨_,written_json_ok_iff.mpr ⟨writable other member,rfl⟩⟩
    · exact written_json_error_iff.mpr failed
  rw [opened_of_named named,texts_error rank first]
  rfl

theorem opened_sublist (second : Threshold.read lax = .ok lower) (stricter : lower ≤ rank)
    (ok : opened strict .json entries = .ok (rank,written)) :
    ∃ more, opened lax .json entries = .ok (lower,more) ∧ written.Sublist more := by
  obtain ⟨_,writable,rfl⟩ := opened_ok_iff.mp ok
  refine ⟨_,opened_ok_iff.mpr ⟨second,writable,rfl⟩,?_⟩
  exact (kept_sublist stricter entries).map jsonLine

/-- What a text opens a journal with, and what is written to it. The rank is that of the level that is
named in any case, or that of information where none is named. No journal is opened for the two names that
are known for something else. The first entry that cannot be made, or brings an integer of too many digits
to its line, has the whole fail. -/
theorem opened_filters (level : String) :
    (∀ form entries fault, Threshold.Spells level (Threshold.Fault.known fault) →
      opened level form entries = .error fault.failure) ∧
    (∀ fault, Threshold.read level = .error fault ↔ Threshold.Spells level fault.known) ∧
    (∀ name rank, (name,rank) ∈ Threshold.named → Threshold.Spells level name →
      Threshold.read level = .ok rank) ∧
    (∀ name rank, (name,rank) ∈ Threshold.named →
      level.toList.map Char.toUpper = name.toList → Threshold.Spells level name) ∧
    ((∀ entry ∈ Threshold.named, ¬Threshold.Spells level entry.1) →
      (∀ fault : Threshold.Fault, ¬Threshold.Spells level fault.known) →
        Threshold.read level = .ok Level.info.rank) ∧
    (∀ rank entries, Threshold.read level = .ok rank → (∀ entry ∈ entries, IsWritable entry) →
      ∃ texts, opened level .json entries = .ok (rank,texts) ∧ Keeps rank entries texts) ∧
    (∀ rank before entry after fault, Threshold.read level = .ok rank →
      (∀ entry ∈ before, IsWritable entry) →
      (checkNames entry = .error fault ∨
        IsPossible entry ∧ ¬IsWritable entry ∧ fault = .unwritable) →
        opened level .json (before ++ entry :: after) = .error fault.failure) ∧
    ∀ lax rank lower entries written, Threshold.read lax = .ok lower → lower ≤ rank →
      opened level .json entries = .ok (rank,written) →
        ∃ more, opened lax .json entries = .ok (lower,more) ∧ written.Sublist more := by
  refine ⟨?_,?_,?_,?_,?_,?_,?_,?_⟩
  · intro form entries fault spelt
    rw [opened,Threshold.read_of_known spelt]
    rfl
  · intro fault
    exact Threshold.read_error_iff
  · intro name rank listed spelt
    exact Threshold.read_of_named listed spelt
  · intro name rank listed alike
    exact Threshold.spells_of_toUpper listed alike
  · intro unnamed unknown
    exact Threshold.read_of_unknown unnamed unknown
  · intro rank entries named writable
    exact opened_keeps named writable
  · intro rank before entry after fault named writable failed
    exact opened_fails named writable failed
  · intro lax rank lower entries written second stricter ok
    exact opened_sublist second stricter ok

end Opening

section Runs

def brokenLine : Entry := ⟨.debug,"test","first\nsecond",[("count",.int 3)],false⟩

def graveEntry : Entry := ⟨.error,"test","failed",[("_record",.null),("text",.str "\u2028")],false⟩

/-- An entry with a field that its maker needs for itself. -/
def selfishEntry : Entry := ⟨.info,"test","taken",[("self",.bool true)],false⟩

def countEntry (count : Int) : Entry := ⟨.debug,"test","counted",[("count",.int count)],false⟩

/-- An entry with an integer of one digit too many. -/
def vastEntry : Entry := countEntry (10 ^ Numeral.digitLimit : Nat)

private theorem writable_entries : ∀ entry ∈ [brokenLine,graveEntry], IsWritable entry := by
  have three : (Json.int 3).isWritable = true :=
    Numeral.isWritable_of_lt 1 (by decide) (by decide)
  simp only [List.forall_mem_cons]
  refine ⟨⟨checkNames_ok_iff.mp rfl,?_⟩,⟨checkNames_ok_iff.mp rfl,?_⟩,by simp⟩
  · simpa [lineValues,brokenLine,tellsCourse,reserved] using three
  · simp [lineValues,graveEntry,tellsCourse,reserved,Json.isWritable,Json.str]

private theorem mem_lineValues_countEntry (count : Int) :
    Json.int count ∈ lineValues (countEntry count) := by
  simp [lineValues,countEntry,tellsCourse,reserved]

private theorem vastEntry_unwritable : IsPossible vastEntry ∧ ¬IsWritable vastEntry := by
  refine ⟨checkNames_ok_iff.mp rfl,fun entire => ?_⟩
  have written := entire.writable _ (mem_lineValues_countEntry _)
  rw [Json.isWritable,Numeral.isWritable_iff,Int.natAbs_natCast] at written
  exact Nat.lt_irrefl _ written

theorem opened_filters_warning : ∃ grave all,
    Threshold.Spells "_Styles" "_STYLES" ∧
    opened "_Styles" .json [] = .error Threshold.Fault.styles.failure ∧
    Threshold.read "WaRning" = .ok 30 ∧ Threshold.read "loud" = .ok 20 ∧
    Threshold.read "notset" = .ok 0 ∧
    opened "WaRning" .json [brokenLine,graveEntry] = .ok (30,grave) ∧
    Keeps 30 [brokenLine,graveEntry] grave ∧
    opened "loud" .json [brokenLine,graveEntry,selfishEntry] =
      .error (Fault.taken "info" "self").failure ∧
    opened "loud" .json [brokenLine,graveEntry,vastEntry] = .error Fault.unwritable.failure ∧
    opened "notset" .json [brokenLine,graveEntry] = .ok (0,all) ∧ grave.Sublist all := by
  obtain ⟨fails,_⟩ := opened_filters "_Styles"
  obtain ⟨_,_,named,spells,_,keeps,_,sublist⟩ := opened_filters "WaRning"
  obtain ⟨_,_,lowest,spellsLowest,_⟩ := opened_filters "notset"
  obtain ⟨_,_,_,_,unnamed,_,stops,_⟩ := opened_filters "loud"
  have styles : Threshold.Spells "_Styles" Threshold.Fault.styles.known := by decide
  have warning := named "WARNING" 30 (by decide) (spells "WARNING" 30 (by decide) (by decide))
  have notset := lowest "NOTSET" 0 (by decide) (spellsLowest "NOTSET" 0 (by decide) (by decide))
  have loud := unnamed (by decide) (fun fault => by cases fault <;> decide)
  obtain ⟨grave,opens,keeps⟩ := keeps 30 _ warning writable_entries
  obtain ⟨all,opensAll,part⟩ := sublist "notset" 30 0 _ grave notset (by decide) opens
  have selfish := stops 20 [brokenLine,graveEntry] selfishEntry [] _ loud writable_entries (.inl rfl)
  obtain ⟨possible,unwritable⟩ := vastEntry_unwritable
  have vast := stops 20 [brokenLine,graveEntry] vastEntry [] .unwritable loud writable_entries
    (.inr ⟨possible,unwritable,rfl⟩)
  exact ⟨grave,all,styles,fails .json [] _ styles,warning,loud,notset,opens,keeps,selfish,vast,
    opensAll,part⟩

/-- Not every text opens a journal: the name of the layout is none of a level. -/
theorem basic_format_refused :
    ¬∀ level, ∃ rank texts, opened level .json [] = .ok (rank,texts) := by
  intro claimed
  obtain ⟨rank,texts,opens⟩ := claimed "basic_format"
  have refused : opened "basic_format" .json [] = .error Threshold.Fault.layout.failure := by
    decide
  rw [refused] at opens
  cases opens

end Runs

end Journal

end ScopedAnalytics
