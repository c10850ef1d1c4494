import AogTaskController.VirtualTerminal.Texts

/-!
# The texts fit

Whatever the application knows, none of its texts is longer than the string that it goes into.
-/

namespace AogTaskController.VirtualTerminal

open Framework Application TaskController

/-- What holds of a bus: an address is held by one control function at a time, there are not thousands of
clients, and the widths of the implement add up within 32 bits. -/
structure VtView.OnBus (view : VtView) : Prop where
  addresses : (view.online.map (·.address)).Nodup
  clients : view.clients.length < 1000
  width : ∀ client ∈ view.clients.head?, WidthsFit client.booms

private theorem length_number_uint8 (n : UInt8) : (number n.toNat).length ≤ 3 :=
  length_number_le 3 (by decide) (Nat.lt_trans n.toNat_lt (by decide))

private theorem length_number_uint32 (n : Nat) : (number (n % 2 ^ 32)).length ≤ 10 :=
  length_number_le 10 (by decide) (Nat.lt_trans (Nat.mod_lt n (by decide)) (by decide))

private theorem length_formatHexAddress (address : UInt8) :
    (formatHexAddress address).length = 4 := rfl

private theorem length_boundIpText (address : Option (UInt8 × UInt8 × UInt8 × UInt8)) :
    (boundIpText address).length ≤ 15 := by
  cases address with
  | none => decide
  | some bytes =>
      obtain ⟨a, b, c, d⟩ := bytes
      have hdot : (ascii ".").length = 1 := rfl
      have ha := length_number_uint8 a
      have hb := length_number_uint8 b
      have hc := length_number_uint8 c
      have hd := length_number_uint8 d
      simp only [boundIpText, List.length_append, hdot]
      omega

private theorem length_packetAgeText (lastAogPacketMs ageMs : BitVec 32) :
    (packetAgeText lastAogPacketMs ageMs).length ≤ 9 := by
  rw [packetAgeText]
  split
  · decide
  · have hage : (number (ageMs.toNat / 1000)).length ≤ 7 :=
      length_number_le 7 (by decide) (by have hlt := ageMs.isLt; omega)
    have hunit : (ascii " s").length = 2 := rfl
    rw [List.length_append]
    omega

private theorem length_distanceText (lastDistanceMm : BitVec 32) :
    (distanceText lastDistanceMm).length ≤ 10 := by
  have hlt := lastDistanceMm.isLt
  rw [distanceText]
  split
  next hshort =>
    have hscale : 1000 * 10 ^ 1 < 2 ^ doubleScale lastDistanceMm.toNat 1000 := by
      have hbits : 30 ≤ doubleScale lastDistanceMm.toNat 1000 :=
        le_trans (by decide) (le_doubleScale 1000 hlt (by decide))
      exact lt_of_lt_of_le (by decide) (Nat.pow_le_pow_right (by decide) hbits)
    obtain ⟨hdigits, _⟩ := fixedDigits_near lastDistanceMm.toNat (by decide) hscale
    have hlength : (fixedText 1 lastDistanceMm.toNat 1000).length ≤ 4 + 1 + 1 :=
      length_pointText (by decide) (by omega)
    have hunit : (ascii " m").length = 2 := rfl
    rw [List.length_append, length_asciiBytes]
    omega
  next =>
    have hscale : 1000000 * 10 ^ 2 < 2 ^ doubleScale lastDistanceMm.toNat 1000000 := by
      have hbits : 40 ≤ doubleScale lastDistanceMm.toNat 1000000 :=
        le_trans (by decide) (le_doubleScale 1000000 hlt (by decide))
      exact lt_of_lt_of_le (by decide) (Nat.pow_le_pow_right (by decide) hbits)
    obtain ⟨hdigits, _⟩ := fixedDigits_near lastDistanceMm.toNat (by decide) hscale
    have hlength : (fixedText 2 lastDistanceMm.toNat 1000000).length ≤ 4 + 1 + 2 :=
      length_pointText (by decide) (by omega)
    have hunit : (ascii " km").length = 3 := rfl
    rw [List.length_append, length_asciiBytes]
    omega

private theorem length_networkRow (clients : List VtTcClient) (cf : BusControlFunction) :
    (networkRow clients cf).length ≤ 34 := by
  have haddress := length_padRight_le 6 (length_formatHexAddress cf.address).le
  have hfunction := length_padRight_le 10 (length_number_uint8 cf.functionCode)
  have hmanufacturer := length_padRight_le 6
    (length_number_le 4 (by decide) (Nat.lt_trans cf.manufacturerCode.isLt (by decide)))
  have hidentity := length_padRight_le 9
    (length_number_le 7 (by decide) (Nat.lt_trans cf.identityNumber.isLt (by decide)))
  have hsections : (number (((clients.find? fun client => client.handle == cf.handle).map
      (·.state.numberOfSections)).getD 0)).length ≤ 3 := by
    refine length_number_le 3 (by decide) ?_
    cases clients.find? fun client => client.handle == cf.handle with
    | none => decide
    | some client => exact Nat.lt_trans client.state.numberOfSections_lt (by decide)
  simp only [networkRow, List.length_append]
  omega

private theorem length_joinLines {bound : Nat} {rows : List Bytes}
    (hrows : ∀ row ∈ rows, row.length ≤ bound) :
    (joinLines rows).length ≤ rows.length * (bound + 1) - 1 := by
  induction rows with
  | nil => exact Nat.zero_le _
  | cons row rows ih =>
      rw [List.forall_mem_cons] at hrows
      have hfirst := hrows.1
      have hrest := ih hrows.2
      have hnewline : (ascii "\n").length = 1 := rfl
      cases rows with
      | nil =>
          rw [joinLines, List.length_singleton]
          omega
      | cons next rows =>
          show (row ++ ascii "\n" ++ joinLines (next :: rows)).length ≤ _
          rw [List.length_append, List.length_append, hnewline]
          rw [List.length_cons, Nat.add_mul] at hrest ⊢
          rw [List.length_cons, Nat.add_mul]
          omega

namespace VtView

variable {view : VtView} (bus : BusNumbers) (aogConnected : Bool)

private theorem OnBus.length_online (h : view.OnBus) : view.online.length ≤ 256 := by
  have hinjective : Function.Injective UInt8.toFin := fun _ _ => UInt8.toFin_inj.mp
  have hcard := List.Nodup.length_le_card (h.addresses.map hinjective)
  rw [List.length_map, List.length_map, Fintype.card_fin] at hcard
  exact hcard

private theorem length_implementDisplayName (view : VtView) :
    view.implementDisplayName.length ≤ 16 :=
  List.length_take_le _ _

private theorem length_sectionControl (view : VtView) : view.sectionControl.length ≤ 8 := by
  rw [sectionControl]
  split <;> decide

private theorem length_measureText {text : Bytes} {bound : Nat} (htext : text.length ≤ bound)
    (hbound : 3 ≤ bound) : (measureText text).length ≤ bound := by
  rw [measureText]
  split
  · exact hbound
  · exact htext

private theorem OnBus.length_widthText (h : view.OnBus) : view.implement.widthText.length ≤ 10 := by
  have hwidth := h.width
  rw [implement]
  cases hclient : view.clients.head? with
  | none => exact Nat.zero_le _
  | some client =>
      have hrange := (hwidth client hclient).measuredWidth_lt
      show (widthTextOf client.booms).length ≤ 10
      rw [widthTextOf, totalWidthMillimetres_eq]
      split
      · exact length_metres (by omega)
      · exact Nat.zero_le _

private theorem length_status (view : VtView) : (view.status bus aogConnected).length ≤ 5 := by
  rw [status]
  split
  · decide
  · split <;> decide

private theorem length_direction (view : VtView) : (ascii ("\nDirection        " ++
    view.direction aogConnected)).length ≤ 21 := by
  rw [direction]
  split
  · decide
  · split <;> decide

private theorem length_mainImplementStatus (view : VtView) :
    view.mainImplementStatus.length ≤ 87 := by
  have hname := view.length_implementDisplayName
  have hsections : (number view.totalSections).length ≤ 10 := length_number_uint32 _
  have hcontrol := view.length_sectionControl
  have hlabels : (ascii "Name             ").length = 17 ∧
      (ascii "\nSections         ").length = 18 ∧ (ascii "\nSection control  ").length = 18 :=
    ⟨rfl, rfl, rfl⟩
  simp only [mainImplementStatus, List.length_append, hlabels]
  omega

private theorem OnBus.length_cfCount (h : view.OnBus) : (number view.cfCount).length ≤ 3 :=
  length_number_le 3 (by decide)
    (Nat.lt_of_le_of_lt ((Nat.mod_le _ _).trans h.length_online) (by decide))

private theorem OnBus.length_mainSystemStatus (h : view.OnBus) {packetAge : Bytes}
    (hage : packetAge.length ≤ 9) : (view.mainSystemStatus aogConnected packetAge).length ≤ 121 := by
  have hcount := h.length_cfCount
  have htask : (ascii ("\nTask state       " ++ runningText view.taskTotalsActive)).length ≤ 25 := by
    cases view.taskTotalsActive <;> decide
  have hdirection := view.length_direction aogConnected
  have hdistance := length_distanceText view.lastDistanceMm
  have hlabels : (ascii "Control funcs    ").length = 17 ∧
      (ascii "\nDistance         ").length = 18 ∧ (ascii "\nAOG packet age   ").length = 18 :=
    ⟨rfl, rfl, rfl⟩
  simp only [mainSystemStatus, List.length_append, hlabels]
  omega

private theorem length_networkRows (view : VtView) : view.networkRows.length ≤ 244 := by
  simp only [networkRows]
  split
  · decide
  · have hrow : ∀ row ∈ (view.online.take 7).map (networkRow view.clients), row.length ≤ 34 := by
      intro row hmem
      obtain ⟨cf, _, rfl⟩ := List.mem_map.mp hmem
      exact length_networkRow view.clients cf
    have hrows := length_joinLines hrow
    have hseven : (view.online.take 7).length ≤ 7 := List.length_take_le _ _
    rw [List.length_map] at hrows
    omega

private theorem length_tcAddress (view : VtView) : view.tcAddress.length ≤ 11 := by
  rw [tcAddress]
  split
  · decide
  · split
    · exact (length_formatHexAddress _).le.trans (by decide)
    · decide

private theorem length_alarm (view : VtView) : (view.alarm bus aogConnected).length ≤ 22 := by
  rw [alarm]
  split
  · split <;> decide
  · split
    · decide
    · split <;> decide

theorem OnBus.statusTexts_fit (h : view.OnBus) (ageMs : BitVec 32) :
    ∀ text ∈ view.statusTexts bus aogConnected ageMs, text.2.length ≤ text.1.declaredLength := by
  have hage := length_packetAgeText view.lastAogPacketMs ageMs
  have hname := view.length_implementDisplayName
  simp only [statusTexts, List.forall_mem_cons, VtString.declaredLength]
  refine ⟨by decide, length_boundIpText _, view.length_status bus aogConnected,
    view.length_mainImplementStatus.trans (by decide),
    (h.length_mainSystemStatus aogConnected hage).trans (by decide), by decide, by decide, ?_, ?_,
    h.length_cfCount, view.length_networkRows.trans (by decide), hname,
    view.length_sectionControl.trans (by decide),
    length_measureText (h.length_widthText.trans (by decide)) (by decide), List.length_take_le _ _,
    length_number_uint8 _, ?_, hage, view.length_tcAddress, ?_, ?_,
    length_number_le 3 (by decide) h.clients, view.length_alarm bus aogConnected, ?_⟩
  · cases view.nmeaInterface <;> cases view.nmeaSendEnabled <;> decide
  · cases view.tecuEnabled <;> decide
  · cases aogConnected <;> decide
  · cases view.taskTotalsActive <;> decide
  · split
    · decide
    · exact hname.trans (by decide)
  · intro text htext
    cases htext

end VtView

end AogTaskController.VirtualTerminal
