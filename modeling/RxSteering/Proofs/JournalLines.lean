import RxSteering.Journal

/-!
The lines of a journal, read back. The record of a change can be told from its line
(`ofLine?_line`), so nothing is lost when only the lines are kept.
-/
namespace RxSteering

open Text

namespace Line

def after? (opening : String) (text : List Char) : Option (List Char) :=
  if opening.toList.isPrefixOf text then some (text.drop opening.toList.length) else none

def number (text : List Char) : UInt32 × List Char :=
  (UInt32.ofNat (Nat.ofDigitChars 10 (text.takeWhile Char.isDigit) 0), text.dropWhile Char.isDigit)

def socket? (text : List Char) : Option (SocketHandle × List Char) :=
  (after? "#" text).map fun rest => (⟨(number rest).1⟩, (number rest).2)

def previous? (text : List Char) : Option (Option SocketHandle × List Char) :=
  match after? "None" text with
  | some rest => some (none, rest)
  | none =>
    (after? "Some(SocketHandle(" text).bind fun rest =>
      (after? "))" (number rest).2).map fun last => (some ⟨(number rest).1⟩, last)

def closing? (opening : String) (record : SocketHandle → Record) (text : List Char) :
    Option Record :=
  ((after? opening text).bind socket?).bind fun (handle, rest) =>
    if rest.isEmpty then some (record handle) else none

def bound? (queue : QueueId) (text : List Char) : Option Record :=
  ((after? " -> socket " text).bind socket?).bind fun (handle, rest) =>
    ((after? " (was " rest).bind previous?).bind fun (previous, last) =>
      if last = [')'] then some (.bound queue handle previous) else none

def onQueue? (opening : String) (record? : QueueId → List Char → Option Record)
    (text : List Char) : Option Record :=
  (after? opening text).bind fun rest => record? ⟨(number rest).1⟩ (number rest).2

theorem after?_append (opening : String) (rest : List Char) :
    after? opening (opening.toList ++ rest) = some rest := by
  simp [after?]

/-- A number ends where something else than a digit follows. -/
theorem number_append (n : UInt32) {rest : List Char}
    (ends : ∀ c ∈ rest.head?, c.isDigit = false) :
    number ((Nat.repr n.toNat).toList ++ rest) = (n, rest) := by
  have digits : ∀ c ∈ (Nat.repr n.toNat).toList, c.isDigit = true := by
    intro c member
    rw [Nat.toList_repr] at member
    exact Nat.isDigit_of_mem_toDigits (by decide) (by decide) member
  have stops : rest.takeWhile Char.isDigit = [] ∧ rest.dropWhile Char.isDigit = rest := by
    cases rest with
    | nil => exact ⟨rfl, rfl⟩
    | cons c rest =>
      have other : ¬ c.isDigit = true := by simp [ends c rfl]
      exact ⟨List.takeWhile_cons_of_neg other, List.dropWhile_cons_of_neg other⟩
  rw [number, List.takeWhile_append_of_pos digits, List.dropWhile_append_of_pos digits, stops.1,
    stops.2, List.append_nil, Nat.toList_repr, Nat.ofDigitChars_ten_toDigits, UInt32.ofNat_toNat]

theorem socket?_append (handle : SocketHandle) {rest : List Char}
    (ends : ∀ c ∈ rest.head?, c.isDigit = false) :
    socket? (handle.text.toList ++ rest) = some (handle, rest) := by
  have split : handle.text = "#" ++ Nat.repr handle.id.toNat := rfl
  rw [socket?, split, String.toList_append, List.append_assoc, after?_append, Option.map_some,
    number_append handle.id ends]

theorem previous?_append (previous : Option SocketHandle) (rest : List Char) :
    previous? ((inspect previous).toList ++ rest) = some (previous, rest) := by
  cases previous with
  | none =>
    have split : inspect (none : Option SocketHandle) = "None" := rfl
    rw [previous?, split, after?_append]
  | some handle =>
    have split : inspect (some handle) =
        "Some" ++ ("(" ++ ("SocketHandle" ++ ("(" ++ Nat.repr handle.id.toNat ++ ")")) ++ ")") :=
      rfl
    have letters : (inspect (some handle)).toList ++ rest = "Some(SocketHandle(".toList ++
        ((Nat.repr handle.id.toNat).toList ++ ("))".toList ++ rest)) := by
      rw [split]
      simp only [String.toList_append, List.append_assoc]
      rfl
    have other : after? "None" ("Some(SocketHandle(".toList ++
        ((Nat.repr handle.id.toNat).toList ++ ("))".toList ++ rest))) = none := rfl
    rw [previous?, letters, other, after?_append]
    simp only [Option.bind_some]
    rw [number_append handle.id (by simp), after?_append]
    rfl

theorem closing?_append (opening : String) (record : SocketHandle → Record)
    (handle : SocketHandle) :
    closing? opening record (opening.toList ++ handle.text.toList) = some (record handle) := by
  have named : socket? (handle.text.toList ++ []) = some (handle, []) :=
    socket?_append handle (by simp)
  rw [List.append_nil] at named
  rw [closing?, after?_append, Option.bind_some, named]
  rfl

theorem bound?_append (queue : QueueId) (handle : SocketHandle)
    (previous : Option SocketHandle) :
    bound? queue (" -> socket ".toList ++ (handle.text.toList ++ (" (was ".toList ++
      ((inspect previous).toList ++ ")".toList)))) = some (.bound queue handle previous) := by
  rw [bound?, after?_append, Option.bind_some, socket?_append handle (by simp)]
  simp only [Option.bind_some]
  rw [after?_append, Option.bind_some, previous?_append]
  rfl

theorem onQueue?_append (opening : String) (record? : QueueId → List Char → Option Record)
    (queue : QueueId) {rest : List Char} (ends : ∀ c ∈ rest.head?, c.isDigit = false) :
    onQueue? opening record? (opening.toList ++ (queue.text.toList ++ rest)) =
      record? queue rest := by
  have number : number (queue.text.toList ++ rest) = (queue.index, rest) :=
    number_append queue.index ends
  rw [onQueue?, after?_append, Option.bind_some, number]

end Line

namespace Record

open Line

/-- The record of a change, from its line. -/
def ofLine? (line : String) : Option Record :=
  closing? "DEBUG registered socket " .registered line.toList <|>
  closing? "DEBUG unregistered socket " .unregistered line.toList <|>
  onQueue? "DEBUG queue " (fun queue => closing? " unbound from dead socket " (.abandoned queue))
    line.toList <|>
  onQueue? "INFO queue " (fun queue rest =>
    closing? " unbound from socket " (.unbound queue) rest <|> bound? queue rest) line.toList

def isChange : Record → Bool
  | registered _ | unregistered _ | bound .. | unbound .. | abandoned .. => true
  | started .. | notAbandoned .. => false

theorem toList_line_registered (handle : SocketHandle) :
    (registered handle).line.toList =
      "DEBUG registered socket ".toList ++ handle.text.toList := by
  have split : (registered handle).line =
      "DEBUG" ++ " " ++ ("registered socket " ++ handle.text) := rfl
  rw [split, ← String.append_assoc, String.toList_append]
  rfl

theorem toList_line_unregistered (handle : SocketHandle) :
    (unregistered handle).line.toList =
      "DEBUG unregistered socket ".toList ++ handle.text.toList := by
  have split : (unregistered handle).line =
      "DEBUG" ++ " " ++ ("unregistered socket " ++ handle.text) := rfl
  rw [split, ← String.append_assoc, String.toList_append]
  rfl

theorem toList_line_abandoned (queue : QueueId) (handle : SocketHandle) :
    (abandoned queue handle).line.toList = "DEBUG queue ".toList ++
      (queue.text.toList ++ (" unbound from dead socket ".toList ++ handle.text.toList)) := by
  have split : (abandoned queue handle).line = "DEBUG" ++ " " ++
      ("queue " ++ queue.text ++ " unbound from dead socket " ++ handle.text) := rfl
  rw [split]
  simp only [String.toList_append, List.append_assoc]
  rfl

theorem toList_line_unbound (queue : QueueId) (handle : SocketHandle) :
    (unbound queue handle).line.toList = "INFO queue ".toList ++
      (queue.text.toList ++ (" unbound from socket ".toList ++ handle.text.toList)) := by
  have split : (unbound queue handle).line = "INFO" ++ " " ++
      ("queue " ++ queue.text ++ " unbound from socket " ++ handle.text) := rfl
  rw [split]
  simp only [String.toList_append, List.append_assoc]
  rfl

theorem toList_line_bound (queue : QueueId) (handle : SocketHandle)
    (previous : Option SocketHandle) :
    (bound queue handle previous).line.toList = "INFO queue ".toList ++ (queue.text.toList ++
      (" -> socket ".toList ++ (handle.text.toList ++ (" (was ".toList ++
        ((inspect previous).toList ++ ")".toList))))) := by
  have split : (bound queue handle previous).line = "INFO" ++ " " ++
      ("queue " ++ queue.text ++ " -> socket " ++ handle.text ++ " (was " ++ inspect previous ++
        ")") := rfl
  rw [split]
  simp only [String.toList_append, List.append_assoc]
  rfl

theorem ofLine?_line {record : Record} (change : record.isChange = true) :
    ofLine? record.line = some record := by
  cases record with
  | started capacity miss => cases change
  | notAbandoned queue handle error => cases change
  | registered handle =>
    rw [ofLine?, toList_line_registered, closing?_append]
    rfl
  | unregistered handle =>
    rw [ofLine?, toList_line_unregistered, closing?_append]
    rfl
  | abandoned queue handle =>
    rw [ofLine?, toList_line_abandoned, onQueue?_append _ _ _ (by simp), closing?_append]
    rfl
  | unbound queue handle =>
    rw [ofLine?, toList_line_unbound, onQueue?_append "INFO queue " _ _ (by simp), closing?_append]
    rfl
  | bound queue handle previous =>
    rw [ofLine?, toList_line_bound, onQueue?_append "INFO queue " _ _ (by simp), bound?_append]
    rfl

end Record

end RxSteering
