import Mathlib.Data.List.Forall2
import RxSteering.Proofs.Loading
import RxSteering.Proofs.TableLookup
import RxSteering.Settings

/-!
What bring-up accepts. A word of a setting is accepted in either case of the letters of ASCII and in
no other spelling. What is demanded of the settings is one list, in the order in which it is checked:
bring-up succeeds just when all of it holds, and otherwise fails with the error of the first demand
that does not. After that nothing is left that could fail.
-/
namespace RxSteering

/-- The same letter up to its case. Only the letters of ASCII come in two cases. -/
def SameLetter (one other : Char) : Prop :=
  one = other ∨ (one.isUpper = true ∧ one.toNat + 32 = other.toNat) ∨
    (other.isUpper = true ∧ other.toNat + 32 = one.toNat)

instance : DecidableRel SameLetter := fun one other =>
  inferInstanceAs (Decidable (one = other ∨ (one.isUpper = true ∧ one.toNat + 32 = other.toNat) ∨
    (other.isUpper = true ∧ other.toNat + 32 = one.toNat)))

def IsCaseVariant (text word : String) : Prop :=
  List.Forall₂ SameLetter text.toList word.toList

instance (text word : String) : Decidable (IsCaseVariant text word) :=
  inferInstanceAs (Decidable (List.Forall₂ SameLetter text.toList word.toList))

theorem isUpper_iff {letter : Char} :
    letter.isUpper = true ↔ 65 ≤ letter.toNat ∧ letter.toNat ≤ 90 := by
  change decide ('A'.val ≤ letter.val ∧ letter.val ≤ 'Z'.val) = true ↔ _
  rw [decide_eq_true_iff, UInt32.le_iff_toNat_le, UInt32.le_iff_toNat_le]
  rfl

theorem isLower_iff {letter : Char} :
    letter.isLower = true ↔ 97 ≤ letter.toNat ∧ letter.toNat ≤ 122 := by
  change (decide ('a'.val ≤ letter.val) && decide (letter.val ≤ 'z'.val)) = true ↔ _
  rw [Bool.and_eq_true, decide_eq_true_iff, decide_eq_true_iff, UInt32.le_iff_toNat_le,
    UInt32.le_iff_toNat_le]
  rfl

theorem toNat_toLower (letter : Char) :
    letter.toLower.toNat = if letter.isUpper = true then letter.toNat + 32 else letter.toNat := by
  have range : letter.isUpper = true ↔ 'A'.val ≤ letter.val ∧ letter.val ≤ 'Z'.val := by
    rw [isUpper_iff, UInt32.le_iff_toNat_le, UInt32.le_iff_toNat_le]
    rfl
  unfold Char.toLower
  split
  next upper =>
    rw [if_pos (range.mpr upper)]
    have small : letter.val.toNat ≤ 90 := (isUpper_iff.mp (range.mpr upper)).2
    change (letter.val + 32).toNat = letter.val.toNat + 32
    rw [UInt32.toNat_add]
    change (letter.val.toNat + 32) % 2 ^ 32 = _
    omega
  next other => rw [if_neg (mt range.mp other)]

/-- A small letter is what its own two spellings become in small letters, and no others. -/
theorem toLower_eq_iff {written plain : Char} (small : plain.isLower = true) :
    written.toLower = plain ↔ SameLetter written plain := by
  have range := isLower_iff.mp small
  have notUpper : ¬ plain.isUpper = true := fun upper => by
    have bounds := isUpper_iff.mp upper
    omega
  rw [← Char.toNat_inj, toNat_toLower, SameLetter, ← Char.toNat_inj]
  by_cases upper : written.isUpper = true
  · have bounds := isUpper_iff.mp upper
    simp only [upper, notUpper, if_true, true_and, false_and, or_false, Bool.false_eq_true]
    omega
  · simp only [upper, notUpper, if_false, false_and, or_false, Bool.false_eq_true]

theorem map_toLower_eq_iff {letters plain : List Char}
    (small : ∀ letter ∈ plain, letter.isLower = true) :
    letters.map Char.toLower = plain ↔ List.Forall₂ SameLetter letters plain := by
  induction plain generalizing letters with
  | nil => simp
  | cons letter rest ih =>
    have head := small letter List.mem_cons_self
    have tail := fun other member => small other (List.mem_cons_of_mem letter member)
    cases letters with
    | nil => simp
    | cons first others =>
      rw [List.map_cons, List.cons_eq_cons, List.forall₂_cons, toLower_eq_iff head, ih tail]

theorem isCaseVariant_refl (text : String) : IsCaseVariant text text :=
  List.forall₂_same.mpr fun _ _ => .inl rfl

theorem length_eq_of_isCaseVariant {text word : String} (variant : IsCaseVariant text word) :
    text.length = word.length := by
  rw [← String.length_toList, ← String.length_toList]
  exact variant.length_eq

theorem isAlpha_of_sameLetter {written plain : Char} (small : plain.isLower = true)
    (same : SameLetter written plain) : written.isAlpha = true := by
  have range := isLower_iff.mp small
  change (written.isUpper || written.isLower) = true
  rw [Bool.or_eq_true]
  rcases same with rfl | ⟨upper, -⟩ | ⟨upper, -⟩
  · exact .inr small
  · exact .inl upper
  · have bounds := isUpper_iff.mp upper
    omega

theorem isAlpha_of_forall₂ {letters plain : List Char}
    (small : ∀ letter ∈ plain, letter.isLower = true)
    (variant : List.Forall₂ SameLetter letters plain) :
    ∀ letter ∈ letters, letter.isAlpha = true := by
  induction variant with
  | nil => exact nofun
  | @cons written letter others rest same _ ih =>
    intro chosen member
    rcases List.mem_cons.mp member with rfl | member
    · exact isAlpha_of_sameLetter (small letter List.mem_cons_self) same
    · exact ih (fun other there => small other (List.mem_cons_of_mem letter there)) chosen member

/-- What is demanded of the settings, with the error for those that do not meet it. -/
structure Demand where
  holds : Prop
  [decides : Decidable holds]
  error : Error

attribute [instance] Demand.decides

def firstUnmet (demands : List Demand) : Option Demand :=
  demands.find? fun demand => decide (¬ demand.holds)

theorem firstUnmet_of_holds {demand : Demand} (holds : demand.holds) (later : List Demand) :
    firstUnmet (demand :: later) = firstUnmet later :=
  List.find?_cons_of_neg (by simpa using holds)

theorem firstUnmet_of_fails {demand : Demand} (fails : ¬ demand.holds) (later : List Demand) :
    firstUnmet (demand :: later) = some demand :=
  List.find?_cons_of_pos (by simpa using fails)

/-- The result is an error just when a demand is not met, and is the error of the first. -/
def Reports {α : Type} (demands : List Demand) (result : Except Error α) : Prop :=
  ∀ error, result = .error error ↔ (firstUnmet demands).map Demand.error = some error

namespace Reports

variable {α β : Type} {demand : Demand} {demands later : List Demand} {result : Except Error α}

theorem ok (value : α) : Reports [] (.ok value : Except Error α) := fun _ => ⟨nofun, nofun⟩

theorem check (rest : Reports later result) {violated : Prop} [Decidable violated]
    (same : violated ↔ ¬ demand.holds) :
    Reports (demand :: later) (if violated then .error demand.error else result) := by
  intro error
  by_cases holds : demand.holds
  · rw [if_neg (fun violates => same.mp violates holds), firstUnmet_of_holds holds]
    exact rest error
  · rw [if_pos (same.mpr holds), firstUnmet_of_fails holds, Option.map_some, Option.some.injEq,
      Except.error.injEq]

theorem bind (first : Reports demands result) {next : α → Except Error β}
    (rest : ∀ value, result = .ok value → Reports later (next value)) :
    Reports (demands ++ later) (result >>= next) := by
  intro error
  have split : firstUnmet (demands ++ later) = (firstUnmet demands).or (firstUnmet later) :=
    List.find?_append
  cases same : result with
  | error fault =>
    have found := (first fault).mp same
    obtain ⟨demand, unmet, rfl⟩ := Option.map_eq_some_iff.mp found
    rw [split, unmet, Option.some_or]
    change Except.error demand.error = .error error ↔ _
    rw [Except.error.injEq, Option.map_some, Option.some.injEq]
  | ok value =>
    have none : firstUnmet demands = none := by
      cases unmet : firstUnmet demands with
      | none => rfl
      | some demand =>
        have fails := (first demand.error).mpr (by rw [unmet, Option.map_some])
        rw [same] at fails
        cases fails
    rw [split, none, Option.none_or]
    exact rest value same error

theorem isOk_iff (reports : Reports demands result) :
    (∃ value, result = .ok value) ↔ ∀ demand ∈ demands, demand.holds := by
  have met : firstUnmet demands = none ↔ ∀ demand ∈ demands, demand.holds := by
    simp [firstUnmet, List.find?_eq_none]
  rw [← met]
  cases same : result with
  | error fault =>
    have found := (reports fault).mp same
    refine iff_of_false nofun ?_
    intro none
    rw [none] at found
    cases found
  | ok value =>
    refine iff_of_true ⟨value, rfl⟩ ?_
    cases unmet : firstUnmet demands with
    | none => rfl
    | some demand =>
      have fails := (reports demand.error).mpr (by rw [unmet, Option.map_some])
      rw [same] at fails
      cases fails

end Reports

structure Vocabulary (α : Type) where
  what : String
  words : List (String × α)
  small : ∀ entry ∈ words, ∀ letter ∈ entry.1.toList, letter.isLower = true
  distinct : (words.map Prod.fst).Nodup

namespace Vocabulary

variable {α : Type} {vocabulary : Vocabulary α} {text word : String} {value : α}

def read (vocabulary : Vocabulary α) (text : String) : Except Error α :=
  match vocabulary.words.lookup text.toLower with
  | some value => .ok value
  | none => .error (.invalidSetting vocabulary.what text)

def demand (vocabulary : Vocabulary α) (text : String) : Demand where
  holds := ∃ word ∈ vocabulary.words.map Prod.fst, IsCaseVariant text word
  error := .invalidSetting vocabulary.what text

theorem isCaseVariant_iff (listed : (word, value) ∈ vocabulary.words) :
    IsCaseVariant text word ↔ text.toLower = word := by
  have folded : text.toLower.toList = text.toList.map Char.toLower := String.toList_map
  rw [← String.toList_inj, folded]
  exact (map_toLower_eq_iff (vocabulary.small _ listed)).symm

theorem isAlpha_of_isCaseVariant (listed : word ∈ vocabulary.words.map Prod.fst)
    (variant : IsCaseVariant text word) : ∀ letter ∈ text.toList, letter.isAlpha = true := by
  obtain ⟨entry, member, rfl⟩ := List.mem_map.mp listed
  exact isAlpha_of_forall₂ (vocabulary.small entry member) variant

theorem lookup_eq_some_iff :
    vocabulary.words.lookup text.toLower = some value ↔
      ∃ word, (word, value) ∈ vocabulary.words ∧ IsCaseVariant text word := by
  rw [List.lookup_eq_some_iff]
  constructor
  · rintro ⟨before, after, split, -⟩
    have listed : (text.toLower, value) ∈ vocabulary.words := by
      rw [split]
      exact List.mem_append_right before List.mem_cons_self
    exact ⟨text.toLower, listed, (isCaseVariant_iff listed).mpr rfl⟩
  · rintro ⟨word, listed, variant⟩
    obtain rfl := (isCaseVariant_iff listed).mp variant
    obtain ⟨before, after, split⟩ := List.append_of_mem listed
    refine ⟨before, after, split, ?_⟩
    intro entry member
    have distinct := vocabulary.distinct
    rw [split, List.map_append, List.nodup_append] at distinct
    have apart := distinct.2.2 entry.1 (List.mem_map_of_mem member) text.toLower
      List.mem_cons_self
    exact bne_iff_ne.mpr (Ne.symm apart)

theorem read_eq_ok_iff :
    vocabulary.read text = .ok value ↔
      ∃ word, (word, value) ∈ vocabulary.words ∧ IsCaseVariant text word := by
  rw [← lookup_eq_some_iff, read]
  split
  next found => rw [found, Except.ok.injEq, Option.some.injEq]
  next absent =>
    rw [absent]
    exact ⟨nofun, nofun⟩

theorem read_listed (listed : (word, value) ∈ vocabulary.words) :
    vocabulary.read word = .ok value :=
  read_eq_ok_iff.mpr ⟨word, listed, isCaseVariant_refl word⟩

theorem read_of_unlisted (unlisted : ∀ entry ∈ vocabulary.words, text.toLower ≠ entry.1) :
    vocabulary.read text = .error (.invalidSetting vocabulary.what text) := by
  have absent : vocabulary.words.lookup text.toLower = none :=
    List.lookup_eq_none_iff.mpr fun entry member => bne_iff_ne.mpr (unlisted entry member)
  rw [read, absent]

theorem reports_read : Reports [vocabulary.demand text] (vocabulary.read text) := by
  have known : (∃ value, vocabulary.words.lookup text.toLower = some value) ↔
      (vocabulary.demand text).holds := by
    constructor
    · rintro ⟨value, found⟩
      obtain ⟨word, listed, variant⟩ := lookup_eq_some_iff.mp found
      exact ⟨word, List.mem_map_of_mem listed, variant⟩
    · rintro ⟨_, member, variant⟩
      obtain ⟨⟨word, value⟩, listed, rfl⟩ := List.mem_map.mp member
      exact ⟨value, lookup_eq_some_iff.mpr ⟨word, listed, variant⟩⟩
  intro error
  rw [read]
  split
  next value found =>
    rw [firstUnmet_of_holds (known.mp ⟨value, found⟩)]
    exact ⟨nofun, nofun⟩
  next absent =>
    have fails : ¬ (vocabulary.demand text).holds := by
      rw [← known, absent]
      exact nofun
    rw [firstUnmet_of_fails fails, Option.map_some, Option.some.injEq, Except.error.injEq]
    rfl

end Vocabulary

def MissPolicy.vocabulary : Vocabulary MissPolicy where
  what := "miss policy"
  words := [("drop", drop), ("pass", pass)]
  small := by simp
  distinct := by simp

def AttachMode.vocabulary : Vocabulary AttachMode where
  what := "attach mode"
  words := [("auto", auto), ("native", native), ("drv", native), ("generic", generic),
    ("skb", generic)]
  small := by simp
  distinct := by simp

theorem MissPolicy.parse_eq (text : String) :
    MissPolicy.parse text = MissPolicy.vocabulary.read text := by
  unfold MissPolicy.parse
  split
  next same =>
    rw [Vocabulary.read, same]
    rfl
  next same =>
    rw [Vocabulary.read, same]
    rfl
  next drop pass =>
    have unlisted : ∀ entry ∈ vocabulary.words, text.toLower ≠ entry.1 := by
      simpa [vocabulary] using ⟨drop, pass⟩
    exact (Vocabulary.read_of_unlisted unlisted).symm

theorem AttachMode.parse_eq (text : String) :
    AttachMode.parse text = AttachMode.vocabulary.read text := by
  unfold AttachMode.parse
  split
  next same =>
    rw [Vocabulary.read, same]
    rfl
  next same =>
    rw [Vocabulary.read, same]
    rfl
  next same =>
    rw [Vocabulary.read, same]
    rfl
  next same =>
    rw [Vocabulary.read, same]
    rfl
  next same =>
    rw [Vocabulary.read, same]
    rfl
  next auto native drv generic skb =>
    have unlisted : ∀ entry ∈ vocabulary.words, text.toLower ≠ entry.1 := by
      simpa [vocabulary] using ⟨auto, native, drv, generic, skb⟩
    exact (Vocabulary.read_of_unlisted unlisted).symm

theorem MissPolicy.parse_text (policy : MissPolicy) :
    MissPolicy.parse policy.text = .ok policy := by
  rw [MissPolicy.parse_eq]
  apply Vocabulary.read_listed
  cases policy with
  | drop => simp [vocabulary, text]
  | pass => simp [vocabulary, text]

theorem AttachMode.parse_text (mode : AttachMode) : AttachMode.parse mode.text = .ok mode := by
  rw [AttachMode.parse_eq]
  apply Vocabulary.read_listed
  cases mode with
  | auto => simp [vocabulary, text]
  | native => simp [vocabulary, text]
  | generic => simp [vocabulary, text]

theorem Table.capacity_ofCapacity {capacity : UInt32} {table : Table}
    (made : Table.ofCapacity capacity = .ok table) : table.capacity = capacity := by
  rw [Table.capacity, Table.length_ofCapacity made, UInt32.ofNat_toNat]

theorem Table.isEmpty_ofCapacity {capacity : UInt32} {table : Table}
    (made : Table.ofCapacity capacity = .ok table) : table.isEmpty = true := by
  unfold Table.ofCapacity at made
  split at made
  · cases made
    simp [Table.isEmpty, Slot.binding?_empty]
  · cases made

namespace Settings

def demands (interface : String) (capacity : UInt32) (ringDepth : UInt64) : List Demand :=
  [⟨interface ≠ "" ∧ '\x00' ∉ interface.toList, .invalidSetting "interface" interface⟩,
    ⟨1 ≤ capacity.toNat ∧ capacity.toNat ≤ 64, .invalidCapacity capacity⟩,
    ⟨1 ≤ ringDepth.toNat, .invalidSetting "ring depth" (toString ringDepth.toNat)⟩]

def bringUpDemands (interface miss mode : String) (capacity : UInt32) (ringDepth : UInt64) :
    List Demand :=
  ⟨∃ word ∈ ["drop", "pass"], IsCaseVariant miss word, .invalidSetting "miss policy" miss⟩ ::
    ⟨∃ word ∈ ["auto", "native", "drv", "generic", "skb"], IsCaseVariant mode word,
      .invalidSetting "attach mode" mode⟩ ::
    demands interface capacity ringDepth

theorem reports_validate (settings : Settings) :
    Reports (demands settings.interface settings.capacity settings.ringDepth)
      settings.validate := by
  have unnamed : (settings.interface.isEmpty || settings.interface.toList.contains '\x00') = true ↔
      ¬ (settings.interface ≠ "" ∧ '\x00' ∉ settings.interface.toList) := by
    simp [← or_iff_not_imp_left]
  have outside : (settings.capacity = 0 || settings.capacity > maxCapacity) = true ↔
      ¬ (1 ≤ settings.capacity.toNat ∧ settings.capacity.toNat ≤ 64) := by
    have none : settings.capacity = 0 ↔ settings.capacity.toNat = 0 := UInt32.toNat_inj.symm
    have many : settings.capacity > maxCapacity ↔ 64 < settings.capacity.toNat :=
      UInt32.lt_iff_toNat_lt
    rw [Bool.or_eq_true, decide_eq_true_iff, decide_eq_true_iff, none, many]
    omega
  have shallow : settings.ringDepth = 0 ↔ ¬ 1 ≤ settings.ringDepth.toNat := by
    rw [← UInt64.toNat_inj]
    change settings.ringDepth.toNat = 0 ↔ _
    omega
  exact (((Reports.ok ()).check shallow).check outside).check unnamed

theorem ofCapacity_of_valid {settings : Settings} (valid : settings.validate = .ok ()) :
    ∃ table, Table.ofCapacity settings.capacity = .ok table := by
  have met := settings.reports_validate.isOk_iff.mp ⟨(), valid⟩
  obtain ⟨some, few⟩ := met ⟨1 ≤ settings.capacity.toNat ∧ settings.capacity.toNat ≤ 64,
    .invalidCapacity settings.capacity⟩ (by simp [demands])
  unfold Table.ofCapacity
  rw [dif_pos ⟨some, few⟩]
  exact ⟨_, rfl⟩

theorem reports_bringUp (interface miss mode : String) (capacity : UInt32) (ringDepth : UInt64) :
    Reports (bringUpDemands interface miss mode capacity ringDepth)
      (bringUp interface miss mode capacity ringDepth) := by
  change Reports ([MissPolicy.vocabulary.demand miss] ++ ([AttachMode.vocabulary.demand mode] ++
    demands interface capacity ringDepth)) _
  unfold bringUp
  rw [MissPolicy.parse_eq, AttachMode.parse_eq]
  refine Vocabulary.reports_read.bind fun miss _ => ?_
  refine Vocabulary.reports_read.bind fun mode _ => ?_
  let settings : Settings := ⟨interface, capacity, miss, mode, ringDepth⟩
  rw [← List.append_nil (demands interface capacity ringDepth)]
  refine settings.reports_validate.bind fun _ valid => ?_
  obtain ⟨table, made⟩ := ofCapacity_of_valid valid
  rw [made]
  exact .ok (settings, table)

theorem bringUp_ok {interface miss mode : String} {capacity : UInt32} {ringDepth : UInt64}
    {settings : Settings} {table : Table}
    (started : bringUp interface miss mode capacity ringDepth = .ok (settings, table)) :
    settings = ⟨interface, capacity, settings.miss, settings.mode, ringDepth⟩ ∧
      MissPolicy.parse miss = .ok settings.miss ∧ AttachMode.parse mode = .ok settings.mode ∧
      Table.ofCapacity capacity = .ok table := by
  obtain ⟨policy, missRead, started⟩ := ok_of_bind started
  obtain ⟨attach, modeRead, started⟩ := ok_of_bind started
  obtain ⟨_, -, started⟩ := ok_of_bind started
  obtain ⟨empty, made, started⟩ := ok_of_bind started
  cases started
  exact ⟨rfl, missRead, modeRead, made⟩

/-- What bring-up makes of what it was given: settings with the values of the words, which are read
again from how they are shown, and an empty table. -/
structure BroughtUp (interface miss mode : String) (capacity : UInt32) (ringDepth : UInt64)
    (settings : Settings) (table : Table) : Prop where
  given : settings = ⟨interface, capacity, settings.miss, settings.mode, ringDepth⟩
  missSpelled : ∃ word,
    (word, settings.miss) ∈ MissPolicy.vocabulary.words ∧ IsCaseVariant miss word
  modeSpelled : ∃ word,
    (word, settings.mode) ∈ AttachMode.vocabulary.words ∧ IsCaseVariant mode word
  missShown : MissPolicy.parse settings.miss.text = .ok settings.miss
  modeShown : AttachMode.parse settings.mode.text = .ok settings.mode
  capacity_eq : table.capacity = capacity
  empty : table.isEmpty = true
  unbound : ∀ queue, table.lookup queue = none

theorem broughtUp {interface miss mode : String} {capacity : UInt32} {ringDepth : UInt64}
    {settings : Settings} {table : Table}
    (started : bringUp interface miss mode capacity ringDepth = .ok (settings, table)) :
    BroughtUp interface miss mode capacity ringDepth settings table := by
  obtain ⟨given, missRead, modeRead, made⟩ := bringUp_ok started
  rw [MissPolicy.parse_eq] at missRead
  rw [AttachMode.parse_eq] at modeRead
  constructor
  case given => exact given
  case missSpelled => exact Vocabulary.read_eq_ok_iff.mp missRead
  case modeSpelled => exact Vocabulary.read_eq_ok_iff.mp modeRead
  case missShown => exact settings.miss.parse_text
  case modeShown => exact settings.mode.parse_text
  case capacity_eq => exact Table.capacity_ofCapacity made
  case empty => exact Table.isEmpty_ofCapacity made
  case unbound => exact Table.lookup_ofCapacity made

/-- Bring-up accepts just the settings that meet every demand, and reports the first that is not met;
a word is met by its spellings in ASCII letters of either case and by nothing else. Valid settings
always get their table. -/
theorem bringUp_accepts_just_valid_settings (interface miss mode : String) (capacity : UInt32)
    (ringDepth : UInt64) :
    let demands := bringUpDemands interface miss mode capacity ringDepth
    let result := bringUp interface miss mode capacity ringDepth
    ((∃ started, result = .ok started) ↔ ∀ demand ∈ demands, demand.holds) ∧
    (∀ error, result = .error error ↔ (firstUnmet demands).map Demand.error = some error) ∧
    (∀ text, ∀ word ∈ ["drop", "pass"] ++ ["auto", "native", "drv", "generic", "skb"],
      IsCaseVariant text word →
        text.length = word.length ∧ ∀ letter ∈ text.toList, letter.isAlpha = true) ∧
    (∀ settings : Settings, settings.validate = .ok () →
      ∃ table, Table.ofCapacity settings.capacity = .ok table) ∧
    ∀ settings table, result = .ok (settings, table) →
      BroughtUp interface miss mode capacity ringDepth settings table := by
  intro demands result
  have reports : Reports demands result :=
    reports_bringUp interface miss mode capacity ringDepth
  refine ⟨reports.isOk_iff, reports, ?_, fun settings => ofCapacity_of_valid,
    fun settings table => broughtUp⟩
  intro text word listed variant
  refine ⟨length_eq_of_isCaseVariant variant, ?_⟩
  rcases List.mem_append.mp listed with policy | attach
  · exact MissPolicy.vocabulary.isAlpha_of_isCaseVariant policy variant
  · exact AttachMode.vocabulary.isAlpha_of_isCaseVariant attach variant

/-- A long s is no spelling of an s, nor the kelvin sign of a k. -/
example : ¬ IsCaseVariant "pa\u017fs" "pass" ∧ ¬ IsCaseVariant "s\u212ab" "skb" ∧
    IsCaseVariant "DrOp" "drop" ∧ ¬ IsCaseVariant " drop" "drop" := by
  decide +kernel

end Settings
end RxSteering
