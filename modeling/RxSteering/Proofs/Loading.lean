import Mathlib.Algebra.Group.Nat.Defs
import RxSteering.LoadedProgram

/-!
What loading makes of an initialized variable: the bytes that the loader writes over it are the
bytes of the map that is made for its section, at the same place. So the classifier in the kernel
reads the miss action of its options.
-/
namespace RxSteering

namespace Bytes

theorem number_ofNumber (size n : Nat) :
    ByteOrder.littleEndian.number (ofNumber size n) = n % 256 ^ size := by
  induction size generalizing n with
  | zero => simp [ofNumber, ByteOrder.number, Nat.mod_one]
  | succ size ih =>
    have step : ByteOrder.littleEndian.number (ofNumber (size + 1) n) =
        (UInt8.ofNat n).toNat +
          256 * ByteOrder.littleEndian.number (ofNumber size (n / 256)) := rfl
    rw [step, ih, Nat.pow_succ, Nat.mul_comm (256 ^ size), Nat.mod_mul]
    simp

theorem length_ofNumber (size n : Nat) : (ofNumber size n).length = size := by
  induction size generalizing n with
  | zero => rfl
  | succ size ih => rw [ofNumber, List.length_cons, ih]

theorem run?_written {content bytes : List UInt8} {offset : Nat}
    (inside : offset + bytes.length ≤ content.length) :
    run? (content.take offset ++ bytes ++ content.drop (offset + bytes.length)) offset
      bytes.length = some bytes := by
  have start : (content.take offset).length = offset := by
    rw [List.length_take]
    omega
  unfold run?
  rw [if_pos (by simp only [List.length_append, start, List.length_drop]; omega),
    List.append_assoc, List.drop_left' start, List.take_left' rfl]

end Bytes

namespace Object.Contents

def placeOf? (contents : Contents) (name : String) : Option (Map × Nat) := do
  let symbol ← contents.symbols.find? fun symbol => symbol.name? = some name
  let map ← contents.maps.find? fun map => symbol.home? = some map.home
  return (map, symbol.address)

/-- A variable of the file that was written over lies inside its map, and the map with the written
bytes is the only one of its name. -/
theorem patch_written {contents patched : Contents} {name : String} {bytes : List UInt8}
    (done : contents.patch name bytes = .ok patched) {map : Map} {address : Nat}
    (place : contents.placeOf? name = some (map, address)) {content : List UInt8}
    (stored : map.content = .bytes content) :
    address + bytes.length ≤ content.length ∧
      patched = contents.insertMap { map with
        content := .bytes (content.take address ++ bytes ++
          content.drop (address + bytes.length)) } := by
  unfold placeOf? at place
  unfold patch at done
  cases found : contents.symbols.find? fun symbol => symbol.name? = some name with
  | none =>
    rw [found] at done
    cases done
  | some symbol =>
    rw [found] at done place
    dsimp only at done
    cases home : contents.maps.find? fun map => symbol.home? = some map.home with
    | none =>
      simp [home] at place
    | some here =>
      simp only [home, Option.bind_eq_bind, Option.bind_some, Option.pure_def, Option.some_inj,
        Prod.mk.injEq] at place
      obtain ⟨rfl, rfl⟩ := place
      rw [home] at done
      split at done
      · cases done
      next fits =>
        dsimp only at done
        split at done
        · cases done
        next inside =>
          cases done
          have size : symbol.size = bytes.length := Decidable.not_not.mp fits
          rw [stored, Variables.size, size] at inside
          refine ⟨Nat.not_lt.mp inside, ?_⟩
          rw [stored, Variables.write]

theorem mem_insertMap {contents : Contents} {map other : Map}
    (member : other ∈ (contents.insertMap map).maps) (named : other.name = map.name) :
    other = map := by
  rcases List.mem_append.mp member with kept | new
  · have apart := (List.mem_filter.mp kept).2
    simp [named] at apart
  · exact List.mem_singleton.mp new

end Object.Contents

/-- Variables that a number can be read from are written when their map is made. -/
theorem KernelMap.valueOf_of_run? {content bytes : List UInt8} {offset : Nat}
    (stands : Bytes.run? content offset missActionSize = some bytes) :
    valueOf (.bytes content) = some content := by
  cases content with
  | nil =>
    simp [Bytes.run?, missActionSize] at stands
  | cons byte rest => rfl

theorem ok_of_bind {α β ε : Type} {first : Except ε α} {next : α → Except ε β} {result : β}
    (done : (first >>= next) = .ok result) :
    ∃ value, first = .ok value ∧ next value = .ok result := by
  cases first with
  | error fault => cases done
  | ok value => exact ⟨value, rfl, done⟩

theorem ok_of_toOption {α ε : Type} {result : Except ε α} {value : α}
    (done : result.toOption = some value) : result = .ok value := by
  cases result with
  | error fault => cases done
  | ok other =>
    cases done
    rfl

theorem ok_of_mapError {α ε δ : Type} {wrap : ε → δ} {result : Except ε α} {value : α}
    (done : result.mapError wrap = .ok value) : result = .ok value := by
  cases result with
  | error fault => cases done
  | ok other =>
    cases done
    rfl

theorem mem_of_mapM {α β ε : Type} {f : α → Except ε β} {list : List α} {made : List β}
    (done : list.mapM f = .ok made) :
    (∀ b ∈ made, ∃ a ∈ list, f a = .ok b) ∧ ∀ a ∈ list, ∃ b ∈ made, f a = .ok b := by
  induction list generalizing made with
  | nil =>
    rw [List.mapM_nil] at done
    cases done
    exact ⟨by simp, by simp⟩
  | cons first rest ih =>
    rw [List.mapM_cons] at done
    obtain ⟨value, head, done⟩ := ok_of_bind done
    obtain ⟨values, tail, done⟩ := ok_of_bind done
    cases done
    obtain ⟨origins, results⟩ := ih tail
    constructor
    · intro b member
      rcases List.mem_cons.mp member with rfl | member
      · exact ⟨first, List.mem_cons_self .., head⟩
      · obtain ⟨a, listed, same⟩ := origins b member
        exact ⟨a, List.mem_cons_of_mem first listed, same⟩
    · intro a member
      rcases List.mem_cons.mp member with rfl | member
      · exact ⟨value, List.mem_cons_self .., head⟩
      · obtain ⟨b, listed, same⟩ := results a member
        exact ⟨b, List.mem_cons_of_mem value listed, same⟩

theorem KernelMap.create_keeps {map : Object.Map} {made : KernelMap}
    (done : create map = .ok made) :
    made.name = map.name ∧ made.value? = valueOf map.content := by
  unfold create at done
  dsimp only at done
  split at done
  · cases done
  · split at done
    · cases done
    · split at done
      · cases done
      · cases done
        exact ⟨rfl, rfl⟩

theorem KernelMap.value?_of_inserted {contents : Object.Contents} {map : Object.Map}
    {made : List KernelMap} (created : (contents.insertMap map).maps.mapM create = .ok made)
    {entry : KernelMap} (member : entry ∈ made) (named : entry.name = map.name) :
    entry.value? = valueOf map.content := by
  obtain ⟨origin, listed, done⟩ := (mem_of_mapM created).1 entry member
  obtain ⟨name, value⟩ := create_keeps done
  rw [value, Object.Contents.mem_insertMap listed (name.symm.trans named)]

theorem KernelMap.exists_of_inserted {contents : Object.Contents} {map : Object.Map}
    {made : List KernelMap} (created : (contents.insertMap map).maps.mapM create = .ok made) :
    ∃ entry ∈ made, entry.name = map.name := by
  have listed : map ∈ (contents.insertMap map).maps :=
    List.mem_append_right _ (List.mem_singleton_self map)
  obtain ⟨entry, member, done⟩ := (mem_of_mapM created).2 map listed
  exact ⟨entry, member, (create_keeps done).1⟩

namespace LoadedProgram

theorem prepare_eq_ok_iff {file : Object.File} {miss : MissPolicy} {linked : Object.Contents}
    {maps : List KernelMap} :
    prepare file miss = .ok (linked, maps) ↔
      ∃ contents patched made, file.contents = .ok contents ∧
        contents.patch missActionName
          (Bytes.ofNumber missActionSize miss.action.code.toNat) = .ok patched ∧
        patched.checkTypes = .ok () ∧
        patched.maps.mapM KernelMap.create = .ok made ∧
        patched.linked? = some linked ∧
        made.find? (fun map => !map.isSupported) = none ∧
        maps = made.mergeSort fun a b => a.name ≤ b.name := by
  constructor
  · intro done
    unfold prepare at done
    obtain ⟨contents, read, done⟩ := ok_of_bind done
    obtain ⟨patched, written, done⟩ := ok_of_bind done
    obtain ⟨_, checked, done⟩ := ok_of_bind done
    obtain ⟨made, created, done⟩ := ok_of_bind done
    split at done
    next found =>
      split at done
      · cases done
      next supported =>
        cases done
        exact ⟨contents, patched, made, read, written, checked, created, found, supported, rfl⟩
    · cases done
  · rintro ⟨contents, patched, made, read, written, checked, created, found, supported, rfl⟩
    simp only [prepare, read, written, checked, created, found, supported, bind, Except.bind, pure,
      Except.pure]

theorem loadPrepared_keeps {contents : Object.Contents} {maps : List KernelMap}
    {options : ProgramOptions} {verifies : Object.Routine → Bool} {record : LoaderRecord}
    {program : LoadedProgram}
    (done : loadPrepared contents maps options verifies = .ok (record, program)) :
    program.options = options ∧ program.maps = maps ∧ program.map.sockets = [] ∧
      program.link? = none ∧ program.attachments = [] := by
  unfold loadPrepared at done
  simp only [bind, Except.bind] at done
  split at done
  · split at done
    · split at done
      · split at done
        · cases done
        · cases done
          exact ⟨rfl, rfl, rfl, rfl, rfl⟩
      · cases done
    · cases done
  · cases done

theorem load_of_prepare {file : Object.File} {options : ProgramOptions}
    {contents : Object.Contents} {maps : List KernelMap}
    (prepared : prepare file options.miss = .ok (contents, maps))
    (verifies : Object.Routine → Bool) :
    load (.ok file) options verifies = loadPrepared contents maps options verifies := by
  unfold load
  change (LoadedProgram.prepare file options.miss).mapError Error.load >>= _ = _
  rw [prepared]
  rfl

theorem keeps_of_load {content : Except Object.Fault Object.File} {options : ProgramOptions}
    {verifies : Object.Routine → Bool} {record : LoaderRecord} {program : LoadedProgram}
    (loaded : load content options verifies = .ok (record, program)) :
    program.options = options ∧ program.map.sockets = [] ∧ program.link? = none ∧
      program.attachments = [] := by
  unfold load at loaded
  obtain ⟨file, -, loaded⟩ := ok_of_bind loaded
  obtain ⟨⟨linked, maps⟩, -, loaded⟩ := ok_of_bind loaded
  obtain ⟨same, -, fresh⟩ := loadPrepared_keeps loaded
  exact ⟨same, fresh⟩

def word? (program : LoadedProgram) (map : String) (offset : Nat) : Option Nat := do
  let made ← program.maps.find? fun made => made.name = map
  let value ← made.value?
  Bytes.number? .littleEndian value offset missActionSize

theorem word?_of_maps {a b : LoadedProgram} (same : a.maps = b.maps) (map : String)
    (offset : Nat) : a.word? map offset = b.word? map offset := by
  rw [word?, word?, same]

theorem word?_missAction {file : Object.File} {options : ProgramOptions}
    {verifies : Object.Routine → Bool} {record : LoaderRecord} {program : LoadedProgram}
    (loaded : load (.ok file) options verifies = .ok (record, program))
    {contents : Object.Contents} (read : file.contents = .ok contents) {map : Object.Map}
    {address : Nat} (place : contents.placeOf? missActionName = some (map, address))
    {content : List UInt8} (stored : map.content = .bytes content) :
    program.word? map.name address = some program.missAction.toNat := by
  unfold load at loaded
  obtain ⟨file, same, loaded⟩ := ok_of_bind loaded
  cases same
  obtain ⟨⟨linked, maps⟩, prepared, loaded⟩ := ok_of_bind loaded
  obtain ⟨same, made, -⟩ := loadPrepared_keeps loaded
  have prepared := ok_of_mapError prepared
  obtain ⟨contents', patched, unsorted, read', written, -, created, -, -, rfl⟩ :=
    prepare_eq_ok_iff.mp prepared
  cases read.symm.trans read'
  obtain ⟨inside, rfl⟩ := Object.Contents.patch_written written place stored
  have size := Bytes.length_ofNumber missActionSize options.miss.action.code.toNat
  have stands := Bytes.run?_written inside
  rw [size] at stands
  -- the patched map is the only one of its name, wherever the order by names puts it
  obtain ⟨entry, member, named⟩ := KernelMap.exists_of_inserted created
  have sorted : entry ∈ program.maps := by
    rw [made]
    exact List.mem_mergeSort.mpr member
  cases found : program.maps.find? fun made => made.name = map.name with
  | none =>
    have absent := List.find?_eq_none.mp found entry sorted
    simp [named] at absent
  | some chosen =>
    have listed := List.mem_of_find?_eq_some found
    rw [made, List.mem_mergeSort] at listed
    have value := KernelMap.value?_of_inserted created listed (by
      simpa using List.find?_some found)
    have small : options.miss.action.code.toNat < 256 ^ missActionSize :=
      options.miss.action.code.toNat_lt
    have number : ByteOrder.littleEndian.number
        (Bytes.ofNumber missActionSize options.miss.action.code.toNat) =
        options.miss.action.code.toNat := by
      rw [Bytes.number_ofNumber, Nat.mod_eq_of_lt small]
    rw [size, KernelMap.valueOf_of_run? stands] at value
    simp only [word?, found, value, Option.bind_eq_bind, Option.bind_some, Bytes.number?, stands,
      Option.map_some, number, missAction, same]

end LoadedProgram
end RxSteering
