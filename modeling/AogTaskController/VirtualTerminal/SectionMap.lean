import AogTaskController.VirtualTerminal.Texts

/-!
# The section map

One digit for each section of the first client, up to 64 of them: 1 while it works. Sixteen of them make
a line. The digits stand at the even places, so that the map can be read back.
-/

namespace AogTaskController.VirtualTerminal

open Framework Application TaskController

def isWorking (st : ClientState) (sect : Nat) : Bool := st.getSectionActualState sect == .on

def sectionDigit (working : Bool) : UInt8 := if working then 49 else 48

def separator (sect : Nat) : Bytes :=
  if sect = 0 then [] else if sect % 16 = 0 then ascii "\n" else ascii " "

def sectionMap (clients : List VtTcClient) : Bytes :=
  match clients with
  | [] => ascii "No sections connected"
  | client :: _ =>
      let sectionCount := min client.state.numberOfSections 64
      if sectionCount = 0 then ascii "No sections connected"
      else (List.range sectionCount).flatMap fun sect =>
        separator sect ++ [sectionDigit (isWorking client.state sect)]

def readSectionMap (text : Bytes) : List Bool :=
  text.filterMap fun byte => if byte = 49 then some true else if byte = 48 then some false else none

def shownStates (clients : List VtTcClient) : List Bool :=
  match clients with
  | [] => []
  | client :: _ => (List.range (min client.state.numberOfSections 64)).map (isWorking client.state)

private theorem readSectionMap_append (text more : Bytes) :
    readSectionMap (text ++ more) = readSectionMap text ++ readSectionMap more :=
  List.filterMap_append

private theorem readSectionMap_separator (sect : Nat) : readSectionMap (separator sect) = [] := by
  rw [separator]
  split
  · rfl
  · split <;> rfl

private theorem readSectionMap_digit (working : Bool) : readSectionMap [sectionDigit working] =
    [working] := by
  cases working <;> rfl

theorem readSectionMap_sectionMap (clients : List VtTcClient) :
    readSectionMap (sectionMap clients) = shownStates clients := by
  cases clients with
  | nil => rfl
  | cons client clients =>
      simp only [sectionMap, shownStates]
      split
      next hnone =>
        rw [hnone]
        rfl
      next =>
        generalize min client.state.numberOfSections 64 = sectionCount
        induction sectionCount with
        | zero => rfl
        | succ sectionCount ih =>
            rw [List.range_succ, List.flatMap_append, List.flatMap_singleton, readSectionMap_append, ih,
              readSectionMap_append, readSectionMap_separator, readSectionMap_digit, List.map_append,
              List.map_singleton, List.nil_append]

private theorem length_sections (st : ClientState) (sectionCount : Nat) :
    ((List.range sectionCount).flatMap fun sect =>
      separator sect ++ [sectionDigit (isWorking st sect)]).length = 2 * sectionCount - 1 := by
  induction sectionCount with
  | zero => rfl
  | succ sectionCount ih =>
      have hseparator : (separator sectionCount).length = if sectionCount = 0 then 0 else 1 := by
        rw [separator]
        split
        · rfl
        · split <;> rfl
      rw [List.range_succ, List.flatMap_append, List.flatMap_singleton, List.length_append, ih,
        List.length_append, hseparator, List.length_singleton]
      split <;> omega

theorem length_sectionMap (clients : List VtTcClient) : (sectionMap clients).length ≤ 127 := by
  cases clients with
  | nil => decide
  | cons client clients =>
      simp only [sectionMap]
      split
      · decide
      · rw [length_sections]
        omega

end AogTaskController.VirtualTerminal
