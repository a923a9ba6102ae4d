import Tase2South.Config.Osi
import Tase2South.Connection.State

/-!
# OSI addressing from the configuration to the endpoint

What `importJsonConnectionOsiConfig`, `src/tase2_client_config.cpp:515–602`, reads for the
two sides of an association, and what `m_setOsiConnectionParameters`,
`src/tase2_client_connection.cpp:49–83`, sets on the endpoint. The transport selectors are
passed crosswise.
-/

namespace Tase2South.Connection

open Tase2South.Base Tase2South.Json Tase2South.Config

/-- The constructor arguments that `prepareConnections` takes from a group,
`src/tase2_client.cpp:177–195`. -/
def ConnectionParams.ofGroup (group : RedGroup) : ConnectionParams where
  serverIp := group.ipAddr
  tcpPort := group.tcpPort
  useTls := group.tls
  osiParameters := if group.isOsiParametersEnabled then some group.osiParameters else none

/-! ### What a section says -/

/-- The AP title a section describes, with dots for commas. -/
def apTitleOf (osi : Value) (name : String) : String := commasToDots (osi.textOr name "")

/-- The parameters a valid section describes. -/
def osiParametersOf (osi : Value) : OsiParameters where
  localApTitle := apTitleOf osi "local_ap_title"
  localAeQualifier := osi.intOr "local_ae_qualifier" 0
  remoteApTitle := apTitleOf osi "remote_ap_title"
  remoteAeQualifier := osi.intOr "remote_ae_qualifier" 0
  localTSelector := parsedSelector osi "local_tsel" 4
  remoteTSelector := parsedSelector osi "remote_tsel" 4
  localSSelector := parsedSelector osi "local_ssel" 16
  remoteSSelector := parsedSelector osi "remote_ssel" 16
  localPSelector := parsedSelector osi "local_psel" 16
  remotePSelector := parsedSelector osi "remote_psel" 16

/-- The calls address each side with what the section says of that side. -/
structure KeepsRoles (osi : Value) (calls : List EndpointCall) : Prop where
  remoteAddresses : ∀ p s t, EndpointCall.setRemoteAddresses p s t ∈ calls ↔
    p = parsedSelector osi "remote_psel" 16 ∧ s = parsedSelector osi "remote_ssel" 16 ∧
      t = parsedSelector osi "remote_tsel" 4
  localAddresses : ∀ p s t, EndpointCall.setLocalAddresses p s t ∈ calls ↔
    p = parsedSelector osi "local_psel" 16 ∧ s = parsedSelector osi "local_ssel" 16 ∧
      t = parsedSelector osi "local_tsel" 4
  remoteApTitle : ∀ title q, EndpointCall.setRemoteApTitle title q ∈ calls ↔
    title = apTitleOf osi "remote_ap_title" ∧ title ≠ "" ∧ q = osi.intOr "remote_ae_qualifier" 0
  localApTitle : ∀ title q, EndpointCall.setLocalApTitle title q ∈ calls ↔
    title = apTitleOf osi "local_ap_title" ∧ title ≠ "" ∧ q = osi.intOr "local_ae_qualifier" 0

/-! ### Import -/

/-- A group without parameters is given those the section describes. -/
theorem eq_of_importJsonConnectionOsiConfig {osi : Value} {group g : RedGroup}
    (hosi : OsiValid osi) (hgroup : group.osiParameters = {})
    (h : importJsonConnectionOsiConfig osi group = .ok g) :
    g = { group with osiParameters := osiParametersOf osi, isOsiParametersEnabled := true } := by
  rw [importJsonConnectionOsiConfig_eq_ok_iff hosi.isObject, hgroup] at h
  obtain ⟨⟨hla, hra, hlt, hrt⟩, ⟨hlp, hls, hlts, hrp, hrs, hrts⟩, hg⟩ := h
  have hparams : g.osiParameters = osiParametersOf osi := by
    apply OsiParameters.ext
    · exact eq_textOr_of_importApTitle hlt
    · exact eq_intOr_of_importAeQualifier hla
    · exact eq_textOr_of_importApTitle hrt
    · exact eq_intOr_of_importAeQualifier hra
    · exact eq_parsedSelector_of_importSelector hlts
    · exact eq_parsedSelector_of_importSelector hrts
    · exact eq_parsedSelector_of_importSelector hls
    · exact eq_parsedSelector_of_importSelector hrs
    · exact eq_parsedSelector_of_importSelector hlp
    · exact eq_parsedSelector_of_importSelector hrp
  rw [hg, hparams]

/-! ### Set-up calls -/

/-- A title of the section is handed on whole. -/
theorem cString_apTitleOf (osi : Value) (name : String) :
    cString (apTitleOf osi name) = apTitleOf osi name := by
  apply cString_eq_self
  intro h
  rw [apTitleOf, commasToDots, String.toList_ofList, List.mem_map] at h
  obtain ⟨c, hc, heq⟩ := h
  split at heq
  · exact absurd heq (by decide)
  · have hnot : nul ∉ (osi.textOr name "").toList := by
      rw [← Value.cString_textOr osi name (by decide)]
      exact nul_notMem_cString _
    exact hnot (heq ▸ hc)

/-- The calls for one side's AP title set it with its qualifier when it is not empty. -/
theorem mem_titleCalls_iff {title : String} {qualifier : Int} {call : EndpointCall}
    {set : String → Int → EndpointCall} :
    call ∈ (if title.isEmpty then [] else [set title qualifier]) ↔
      title ≠ "" ∧ call = set title qualifier := by
  by_cases ht : title = ""
  · simp [ht]
  · simp [ht]

/-- A call of `m_setOsiConnectionParameters` is one of four. -/
theorem mem_osiCalls_iff (osi : Value) (call : EndpointCall) :
    call ∈ osiCalls (osiParametersOf osi) ↔
      (apTitleOf osi "remote_ap_title" ≠ "" ∧ call = .setRemoteApTitle
        (apTitleOf osi "remote_ap_title") (osi.intOr "remote_ae_qualifier" 0)) ∨
      (apTitleOf osi "local_ap_title" ≠ "" ∧ call = .setLocalApTitle
        (apTitleOf osi "local_ap_title") (osi.intOr "local_ae_qualifier" 0)) ∨
      call = .setRemoteAddresses (parsedSelector osi "remote_psel" 16)
        (parsedSelector osi "remote_ssel" 16) (parsedSelector osi "local_tsel" 4) ∨
      call = .setLocalAddresses (parsedSelector osi "local_psel" 16)
        (parsedSelector osi "local_ssel" 16) (parsedSelector osi "remote_tsel" 4) := by
  simp only [osiCalls, osiParametersOf, cString_apTitleOf, List.mem_append, mem_titleCalls_iff,
    List.mem_cons, List.not_mem_nil, or_false, or_assoc]

/-- The calls keep the roles exactly when the two transport selectors are the same. -/
theorem keepsRoles_osiCalls_iff (osi : Value) :
    KeepsRoles osi (osiCalls (osiParametersOf osi)) ↔
      parsedSelector osi "local_tsel" 4 = parsedSelector osi "remote_tsel" 4 := by
  constructor
  · intro h
    have hremote := (h.remoteAddresses _ _ _).mp
      ((mem_osiCalls_iff osi _).mpr (.inr (.inr (.inl rfl))))
    exact hremote.2.2
  · intro h
    refine ⟨?_, ?_, ?_, ?_⟩
    · intro p s t
      simp [mem_osiCalls_iff, h]
    · intro p s t
      simp [mem_osiCalls_iff, h]
    · intro title q
      simp only [mem_osiCalls_iff, EndpointCall.setRemoteApTitle.injEq, reduceCtorEq, and_false,
        or_false]
      grind
    · intro title q
      simp only [mem_osiCalls_iff, EndpointCall.setLocalApTitle.injEq, reduceCtorEq, and_false,
        or_false, false_or]
      grind

/-- A connection made from the imported group makes the calls for the section. -/
theorem setOsiConnectionParameters_ofGroup {osi : Value} {ipAddr : String} {tcpPort : Int}
    {g : RedGroup} (hosi : OsiValid osi)
    (hg : importJsonConnectionOsiConfig osi { ipAddr, tcpPort } = .ok g) {s : Session}
    {endpoint : Handle} (hendpoint : s.endpoint = some endpoint) :
    s.setOsiConnectionParameters (ConnectionParams.ofGroup g).osiParameters =
      .ok (s.record ((osiCalls (osiParametersOf osi)).map (.endpoint endpoint))) := by
  rw [eq_of_importJsonConnectionOsiConfig hosi rfl hg, ConnectionParams.ofGroup, if_pos rfl]
  simp only [Session.setOsiConnectionParameters, hendpoint]

/-- A valid section is imported into a new group; a connection made from that group sets up
its endpoint in the right roles exactly when the section gives both sides the same transport
selector. -/
theorem keepsRoles_setOsiConnectionParameters_iff {osi : Value} (hosi : OsiValid osi)
    (ipAddr : String) (tcpPort : Int) :
    ∃ g, importJsonConnectionOsiConfig osi { ipAddr, tcpPort } = .ok g ∧
      ∀ (s : Session) (endpoint : Handle), s.endpoint = some endpoint →
        ∃ calls, s.setOsiConnectionParameters (ConnectionParams.ofGroup g).osiParameters =
            .ok (s.record (calls.map (.endpoint endpoint))) ∧
          (KeepsRoles osi calls ↔
            parsedSelector osi "local_tsel" 4 = parsedSelector osi "remote_tsel" 4) := by
  obtain ⟨g, hg⟩ :=
    (completes_importJsonConnectionOsiConfig_iff osi { ipAddr, tcpPort }).mpr hosi
  refine ⟨g, hg, fun s endpoint hendpoint ↦ ⟨osiCalls (osiParametersOf osi), ?_, ?_⟩⟩
  · exact setOsiConnectionParameters_ofGroup hosi hg hendpoint
  · exact keepsRoles_osiCalls_iff osi

/-! ### Two transport selectors -/

/-- A section that gives the two sides different transport selectors. -/
def twoSelectors : Value :=
  .object [("local_tsel", .string "0 1"), ("remote_tsel", .string "0 2")]

private theorem osiValid_twoSelectors : OsiValid twoSelectors where
  isObject := rfl
  localAeQualifier := Value.memberIs_of_none rfl
  remoteAeQualifier := Value.memberIs_of_none rfl
  localApTitle _ h := by cases h
  remoteApTitle _ h := by cases h
  localPSelector _ h := by cases h
  localSSelector _ h := by cases h
  localTSelector _ h := by
    cases h
    exact ⟨_, rfl, 2, by decide⟩
  remotePSelector _ h := by cases h
  remoteSSelector _ h := by cases h
  remoteTSelector _ h := by
    cases h
    exact ⟨_, rfl, 2, by decide⟩

/-- The equivalence holds of the section `twoSelectors`. -/
theorem keepsRoles_setOsiConnectionParameters_iff_twoSelectors :
    ∃ g, importJsonConnectionOsiConfig twoSelectors { ipAddr := "127.0.0.1", tcpPort := 102 } =
        .ok g ∧
      ∀ (s : Session) (endpoint : Handle), s.endpoint = some endpoint →
        ∃ calls, s.setOsiConnectionParameters (ConnectionParams.ofGroup g).osiParameters =
            .ok (s.record (calls.map (.endpoint endpoint))) ∧
          (KeepsRoles twoSelectors calls ↔
            parsedSelector twoSelectors "local_tsel" 4 =
              parsedSelector twoSelectors "remote_tsel" 4) :=
  keepsRoles_setOsiConnectionParameters_iff osiValid_twoSelectors "127.0.0.1" 102

/-- The remote address is set with the local transport selector. -/
theorem not_keepsRoles_twoSelectors :
    ∃ g, importJsonConnectionOsiConfig twoSelectors { ipAddr := "127.0.0.1", tcpPort := 102 } =
        .ok g ∧
      ∀ (s : Session) (endpoint : Handle), s.endpoint = some endpoint →
        ∃ calls, s.setOsiConnectionParameters (ConnectionParams.ofGroup g).osiParameters =
            .ok (s.record (calls.map (.endpoint endpoint))) ∧
          ¬ KeepsRoles twoSelectors calls := by
  obtain ⟨g, hg⟩ := (completes_importJsonConnectionOsiConfig_iff twoSelectors
    { ipAddr := "127.0.0.1", tcpPort := 102 }).mpr osiValid_twoSelectors
  refine ⟨g, hg, fun s endpoint hendpoint ↦ ⟨osiCalls (osiParametersOf twoSelectors), ?_, ?_⟩⟩
  · exact setOsiConnectionParameters_ofGroup osiValid_twoSelectors hg hendpoint
  · rw [keepsRoles_osiCalls_iff]
    decide

end Tase2South.Connection
