import Tase2South.Config.OsiSection
import Tase2South.Config.Stack

/-!
# What the importer has checked

Every group that `importProtocolConfig` adds, `src/tase2_client_config.cpp:275–324`, has a valid
address, a port in the range that is let through and an OSI section that
`importJsonConnectionOsiConfig`, `src/tase2_client_config.cpp:515–762`, has tested field by field.
-/

namespace Tase2South.Config

open Tase2South.Base Tase2South.Json

/-! ### Checked values -/

/-- The bytes of a selector fit its buffer, which is zero behind them. -/
structure SelectorChecked {capacity : Nat} (selector : OsiSelector capacity) : Prop where
  fits : selector.size.toNat ≤ capacity
  rest : ∀ i, selector.size.toNat ≤ i → i < capacity → selector.value[i]? = some 0

/-- The qualifiers fit an `int`, the titles are digits and dots, and the selectors fit. -/
structure OsiChecked (osiParams : OsiParameters) : Prop where
  localAeQualifier : Value.fitsInt osiParams.localAeQualifier = true
  remoteAeQualifier : Value.fitsInt osiParams.remoteAeQualifier = true
  localApTitle : isDottedDigits osiParams.localApTitle = true
  remoteApTitle : isDottedDigits osiParams.remoteApTitle = true
  localPSelector : SelectorChecked osiParams.localPSelector
  localSSelector : SelectorChecked osiParams.localSSelector
  localTSelector : SelectorChecked osiParams.localTSelector
  remotePSelector : SelectorChecked osiParams.remotePSelector
  remoteSSelector : SelectorChecked osiParams.remoteSSelector
  remoteTSelector : SelectorChecked osiParams.remoteTSelector

/-- The group has a valid address without a NUL, a port that the importer lets through, and checked
OSI parameters, which are not set without an OSI section. -/
structure GroupChecked (env : ImportEnv) (group : RedGroup) : Prop where
  ipAddr : env.isValidIPAddress group.ipAddr = true
  text : cString group.ipAddr = group.ipAddr
  port : 0 < group.tcpPort ∧ group.tcpPort < 65636
  osi : OsiChecked group.osiParameters
  unset : group.isOsiParametersEnabled = false → group.osiParameters = {}

/-- A title of digits and dots has no NUL. -/
theorem cString_of_isDottedDigits {title : String} (h : isDottedDigits title = true) :
    cString title = title := by
  apply cString_eq_self
  intro hnul
  have hdigit := List.all_eq_true.mp h nul (List.mem_filter.mpr ⟨hnul, by decide⟩)
  exact absurd hdigit (by decide)

/-! ### The import checks -/

/-- A selector that was not set is checked. -/
theorem selectorChecked_zero (capacity : Nat) : SelectorChecked (OsiSelector.zero capacity) where
  fits := Nat.zero_le capacity
  rest i _ hi := by simp [OsiSelector.zero, hi]

/-- Parameters that were not set are checked. -/
theorem osiChecked_default : OsiChecked {} where
  localAeQualifier := by decide
  remoteAeQualifier := by decide
  localApTitle := by decide
  remoteApTitle := by decide
  localPSelector := selectorChecked_zero 16
  localSSelector := selectorChecked_zero 16
  localTSelector := selectorChecked_zero 4
  remotePSelector := selectorChecked_zero 16
  remoteSSelector := selectorChecked_zero 16
  remoteTSelector := selectorChecked_zero 4

section

variable {osi : Value} {name : String}

/-- A qualifier that is imported fits an `int`. -/
theorem fitsInt_of_importAeQualifier {before after : Int}
    (h : importAeQualifier osi name before = .ok after) (hbefore : Value.fitsInt before = true) :
    Value.fitsInt after = true := by
  have hread := (Value.memberOr_eq_ok_iff.mp h).2
  split at hread
  · exact hread ▸ hbefore
  · split at hread
    · next v _ hint =>
      have hvalue := Value.getInt_eq_ok_iff.mp hread
      cases v with
      | int n =>
        rw [Value.int?, if_pos (show Value.fitsInt n = true from hint)] at hvalue
        exact Option.some.inj hvalue ▸ hint
      | _ => cases hint
    · cases hread

/-- A title that is imported is checked. -/
theorem isDottedDigits_of_importApTitle {before after : String}
    (h : importApTitle osi name before = .ok after) (hbefore : isDottedDigits before = true) :
    isDottedDigits after = true := by
  have hread := (Value.memberOr_eq_ok_iff.mp h).2
  split at hread
  · exact hread ▸ hbefore
  · split at hread
    · obtain ⟨s, -, htitle⟩ := bind_eq_ok_iff.mp hread
      dsimp only at htitle
      split at htitle
      · next hdigits => exact Except.ok.inj htitle ▸ hdigits
      · cases htitle
    · cases hread

/-- A selector that is imported over an unset one is checked. -/
theorem selectorChecked_of_importSelector {capacity : Nat} (hcapacity : capacity ≤ 255)
    {selector : OsiSelector capacity}
    (h : importSelector osi name (.zero capacity) = .ok selector) : SelectorChecked selector := by
  have hstored := fieldStored_importSelector hcapacity h
  unfold FieldStored at hstored
  split at hstored
  · obtain ⟨s, bytes, -, -, hsize, hvalue⟩ := hstored
    constructor
    · -- the byte behind the capacity would have no place
      rw [hsize]
      by_contra hlong
      have hlast := hvalue capacity
      rw [if_pos (Nat.lt_of_not_le hlong), List.getElem?_eq_getElem (Nat.lt_of_not_le hlong)]
        at hlast
      simp at hlast
    · intro i hi hlt
      rw [hvalue, if_neg (by omega)]
      simp [OsiSelector.zero, hlt]
  · exact hstored ▸ selectorChecked_zero capacity

end

/-- An OSI section that is imported into a new group is checked. -/
theorem osiChecked_of_importJsonConnectionOsiConfig {osi : Value} {group g : RedGroup}
    (hgroup : group.osiParameters = {}) (h : importJsonConnectionOsiConfig osi group = .ok g) :
    OsiChecked g.osiParameters := by
  have hobj := ((completes_importJsonConnectionOsiConfig_iff osi group).mp ⟨g, h⟩).isObject
  rw [importJsonConnectionOsiConfig_eq_ok_iff hobj, hgroup] at h
  obtain ⟨⟨hla, hra, hlt, hrt⟩, ⟨hlp, hls, hlts, hrp, hrs, hrts⟩, -⟩ := h
  exact {
    localAeQualifier := fitsInt_of_importAeQualifier hla osiChecked_default.localAeQualifier
    remoteAeQualifier := fitsInt_of_importAeQualifier hra osiChecked_default.remoteAeQualifier
    localApTitle := isDottedDigits_of_importApTitle hlt osiChecked_default.localApTitle
    remoteApTitle := isDottedDigits_of_importApTitle hrt osiChecked_default.remoteApTitle
    localPSelector := selectorChecked_of_importSelector (by omega) hlp
    localSSelector := selectorChecked_of_importSelector (by omega) hls
    localTSelector := selectorChecked_of_importSelector (by omega) hlts
    remotePSelector := selectorChecked_of_importSelector (by omega) hrp
    remoteSSelector := selectorChecked_of_importSelector (by omega) hrs
    remoteTSelector := selectorChecked_of_importSelector (by omega) hrts }

/-- The group of an accepted connection is checked. -/
theorem groupChecked_of_importGroup {env : ImportEnv} {connection : Value} {group : RedGroup}
    (haccepts : acceptsConnection env connection = .ok true)
    (h : importGroup connection = .ok group) : GroupChecked env group := by
  simp only [importGroup, bind_eq_ok_iff] at h
  obtain ⟨ip, hip, s, hs, port, hport, n, hn, g, hosi, tls, -, hg⟩ := h
  have hfindIp : connection.find? "ip_addr" = some ip := by
    cases hfind : connection.find? "ip_addr" with
    | none => rw [Value.member_eq_error hfind] at hip; cases hip
    | some w => rw [Value.member_eq hfind] at hip; rw [Except.ok.inj hip]
  have hfindPort : connection.find? "port" = some port := by
    cases hfind : connection.find? "port" with
    | none => rw [Value.member_eq_error hfind] at hport; cases hport
    | some w => rw [Value.member_eq hfind] at hport; rw [Except.ok.inj hport]
  rw [acceptsConnection, Value.memberOr_of_some hfindIp, hs, ok_bind] at haccepts
  have hvalid : env.isValidIPAddress s = true := by
    by_contra hinvalid
    rw [if_neg hinvalid] at haccepts
    cases haccepts
  rw [if_pos hvalid, Value.memberOr_of_some hfindPort, hn, ok_bind] at haccepts
  have hrange := Except.ok.inj haccepts
  simp only [Bool.not_eq_true', Bool.or_eq_false_iff, decide_eq_false_iff_not] at hrange
  have hstored : OsiChecked g.osiParameters ∧
      (g.isOsiParametersEnabled = false → g.osiParameters = {}) ∧ g.ipAddr = s ∧ g.tcpPort = n := by
    have hread := (Value.memberOr_eq_ok_iff.mp hosi).2
    split at hread
    · rw [← hread]
      exact ⟨osiChecked_default, fun _ ↦ rfl, rfl, rfl⟩
    · have hothers := (osiStored_of_eq_ok hread).others
      refine ⟨osiChecked_of_importJsonConnectionOsiConfig rfl hread, fun hunset ↦ ?_, ?_, ?_⟩
      · rw [hothers] at hunset
        cases hunset
      · rw [hothers]
      · rw [hothers]
  obtain ⟨hchecked, hunset, hipAddr, htcpPort⟩ := hstored
  rw [← Except.ok.inj hg]
  exact {
    ipAddr := by rw [hipAddr]; exact hvalid
    text := by rw [hipAddr]; exact cString_eq_self s.property
    port := by rw [htcpPort]; omega
    osi := hchecked
    unset := hunset }

/-- The connection loop adds checked groups only. -/
theorem groupChecked_of_importConnection {env : ImportEnv} {connections : List Value}
    {groups : List RedGroup} (h : connections.foldlM (importConnection env) [] = .ok groups) :
    ∀ group ∈ groups, GroupChecked env group := by
  apply foldlM_invariant _ (by simp) h
  intro groups connection groups' hgroups hpass
  obtain ⟨accepted, haccepts, hpass⟩ := bind_eq_ok_iff.mp hpass
  cases accepted with
  | false => exact Except.ok.inj hpass ▸ hgroups
  | true =>
    rw [if_pos rfl] at hpass
    obtain ⟨group, hgroup, hpass⟩ := bind_eq_ok_iff.mp hpass
    rw [← Except.ok.inj hpass]
    intro g hg
    rcases List.mem_append.mp hg with hg | hg
    · exact hgroups g hg
    · rw [List.mem_singleton.mp hg]
      exact groupChecked_of_importGroup haccepts hgroup

end Tase2South.Config
