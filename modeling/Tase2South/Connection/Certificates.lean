import Tase2South.Base.Text
import Tase2South.Connection.Preparation

/-!
# The directory of a certificate

`prepareConnection` takes a certificate from one of two directories,
`src/tase2_client_connection.cpp:537–546,573–584,616–626`. The suffix test compares what `rfind`
returns with the size minus four; for a name of three bytes the difference wraps to `npos`, which
is also what a failed search returns.
-/

namespace Tase2South.Connection

open Tase2South.Base Tase2South.Config

/-! ### The suffix test -/

/-- The name ends with `.pem`. -/
def EndsWithPem (file : String) : Prop := bytesOf ".pem" <:+ bytesOf file

instance : DecidablePred EndsWithPem := fun _ ↦ inferInstanceAs (Decidable (_ <:+ _))

/-- The size of the name fits a `size_t`, as that of every `std::string` does. -/
def FitsSizeT (file : String) : Prop := (bytesOf file).length < 2 ^ 64

instance : DecidablePred FitsSizeT := fun _ ↦ inferInstanceAs (Decidable (_ < _))

/-- The path of a certificate by the suffix of its name. -/
def pathBySuffix (dataDir file : String) : String :=
  if EndsWithPem file then dataDir ++ "/etc/certs/pem/" ++ file
  else dataDir ++ "/etc/certs/" ++ file

/-- A search for a pattern longer than the text fails. -/
theorem rfind_of_length_lt {pattern text : List UInt8} (h : text.length < pattern.length) :
    rfind pattern text = npos := by
  have hnone : (List.range (text.length + 1)).reverse.find?
      (fun i ↦ pattern.isPrefixOf (text.drop i)) = none := by
    rw [List.find?_eq_none]
    intro i _ hstarts
    have hle := (List.isPrefixOf_iff_prefix.mp hstarts).length_le
    rw [List.length_drop] at hle
    omega
  rw [rfind, hnone, Option.getD_none]

/-- A search finds a pattern at the last place where it fits exactly when the text ends with
it. -/
theorem rfind_eq_iff {pattern text : List UInt8} (hne : 1 < pattern.length)
    (hle : pattern.length ≤ text.length) (hsize : text.length < 2 ^ 64) :
    rfind pattern text = text.length - pattern.length ↔ pattern <:+ text := by
  rw [← prefix_drop_iff_suffix hle, ← List.isPrefixOf_iff_prefix]
  constructor
  · intro h
    rw [rfind] at h
    cases hfind : (List.range (text.length + 1)).reverse.find?
      (fun i ↦ pattern.isPrefixOf (text.drop i)) with
    | none =>
      rw [hfind, Option.getD_none, npos] at h
      omega
    | some j =>
      rw [hfind, Option.getD_some] at h
      have hj := (find?_reverse_range_eq_some.mp hfind).2.1
      rw [← h]
      exact hj
  · intro hstarts
    have hlast : (List.range (text.length + 1)).reverse.find?
        (fun i ↦ pattern.isPrefixOf (text.drop i)) = some (text.length - pattern.length) := by
      rw [find?_reverse_range_eq_some]
      refine ⟨by omega, hstarts, fun i hlow hhigh ↦ ?_⟩
      rw [Bool.eq_false_iff]
      intro hi
      have hlength := (List.isPrefixOf_iff_prefix.mp hi).length_le
      rw [List.length_drop] at hlength
      omega
    rw [rfind, hlast, Option.getD_some]

/-- The test takes every name that ends with `.pem`, and every name of three bytes. -/
theorem isPem_iff {file : String} (hsize : FitsSizeT file) :
    isPem file = true ↔ EndsWithPem file ∨ (bytesOf file).length = 3 := by
  have hfour : (bytesOf ".pem").length = 4 := by decide
  rw [isPem, beq_iff_eq, EndsWithPem]
  rw [FitsSizeT] at hsize
  by_cases hlong : 4 ≤ (bytesOf file).length
  · have hdiff : ((bytesOf file).length + 2 ^ 64 - 4) % 2 ^ 64 =
        (bytesOf file).length - (bytesOf ".pem").length := by
      rw [hfour]
      omega
    rw [hdiff, rfind_eq_iff (by omega) (by omega) hsize]
    constructor
    · exact .inl
    · intro h
      exact h.resolve_right (by omega)
  · have hshort : ¬ bytesOf ".pem" <:+ bytesOf file := by
      intro hsuffix
      have hle := hsuffix.length_le
      omega
    rw [rfind_of_length_lt (by omega), npos, or_iff_right hshort]
    omega

/-- The code takes a certificate from the directory of its suffix unless its name has three
bytes. -/
theorem certificatePath_eq_iff {dataDir file : String} (hsize : FitsSizeT file) :
    certificatePath dataDir file = pathBySuffix dataDir file ↔ (bytesOf file).length ≠ 3 := by
  have hpem := isPem_iff hsize
  unfold certificatePath pathBySuffix
  by_cases hends : EndsWithPem file
  · have hlong : (bytesOf file).length ≠ 3 := by
      have hle := hends.length_le
      have hfour : (bytesOf ".pem").length = 4 := by decide
      omega
    simp [hpem.mpr (.inl hends), hends, hlong]
  · by_cases hthree : (bytesOf file).length = 3
    · -- the two paths differ in the length of the directory
      have hdiffer : dataDir ++ "/etc/certs/pem/" ++ file ≠ dataDir ++ "/etc/certs/" ++ file := by
        intro heq
        have hlength := congrArg String.length heq
        simp only [String.length_append] at hlength
        have hpemLength : "/etc/certs/pem/".length = 15 := by decide
        have hplainLength : "/etc/certs/".length = 11 := by decide
        omega
      simp [hpem.mpr (.inr hthree), hends, hthree, hdiffer]
    · have hplain : isPem file = false := by
        rw [Bool.eq_false_iff, Ne, hpem]
        exact not_or.mpr ⟨hends, hthree⟩
      simp [hplain, hends, hthree]

/-! ### The files of an attempt -/

/-- The file that a call looks for. -/
def accessedFile : LibCall → Option String
  | .access file _ => some file
  | _ => none

/-- The file that a call hands to a TLS configuration. -/
def handedFile : LibCall → Option String
  | .tls _ (.setOwnKeyFromFile file _) => some file
  | .tls _ (.setOwnCertificateFromFile file _) => some file
  | .tls _ (.addAllowedCertificateFromFile file _) => some file
  | .tls _ (.addCACertificateFromFile file _) => some file
  | _ => none

/-- The own certificate is looked for together with the own key. -/
def ownNames (config : TASE2ClientConfig) : List String :=
  if config.ownCertificate.isEmpty || config.privateKey.isEmpty then []
  else [config.ownCertificate]

/-- The names of the certificates that an attempt looks for: with TLS the own one, the remote
ones and those of the CAs. -/
def certificateNames (config : TASE2ClientConfig) (useTls : Bool) : List String :=
  if useTls then ownNames config ++ config.remoteCertificates ++ config.caCertificates else []

/-- The own key is looked for in the plain directory. -/
def keyFiles (env : PrepareEnv) (config : TASE2ClientConfig) (useTls : Bool) : List String :=
  if useTls then (ownNames config).map fun _ ↦ env.dataDir ++ "/etc/certs/" ++ config.privateKey
  else []

/-- An attempt looks for the own key and then for each certificate in the directory of its
suffix, and hands over none but these files. -/
structure TakesBySuffix (env : PrepareEnv) (config : TASE2ClientConfig) (useTls : Bool)
    (calls : List LibCall) : Prop where
  accessed : calls.filterMap accessedFile = keyFiles env config useTls ++
    (certificateNames config useTls).map (pathBySuffix env.dataDir)
  handed : ∀ file ∈ calls.filterMap handedFile, file ∈ calls.filterMap accessedFile

/-- A call that neither looks for a file nor hands one over. -/
def NamesNoFile (c : LibCall) : Prop := accessedFile c = none ∧ handedFile c = none

/-! ### What the set-up looks for -/

/-- A file is looked for once. -/
theorem accessed_loadFile (tls : Handle) (file : String) (call : Bool → TlsCall)
    (outcome : FileOutcome) :
    (loadFile tls file call outcome).filterMap accessedFile = [file] := by
  cases outcome with
  | unreadable => rfl
  | rejected => rfl
  | loaded => rfl

/-- Only the file that was looked for is handed over. -/
theorem handed_loadFile {tls : Handle} {file : String} {call : Bool → TlsCall}
    (hcall : ∀ loaded, handedFile (.tls tls (call loaded)) = some file) (outcome : FileOutcome) :
    ∀ f ∈ (loadFile tls file call outcome).filterMap handedFile, f = file := by
  intro f hf
  obtain ⟨c, hc, hhanded⟩ := List.mem_filterMap.mp hf
  rcases mem_loadFile hc with ⟨readable, rfl⟩ | ⟨loaded, rfl⟩
  · cases hhanded
  · rw [hcall] at hhanded
    exact (Option.some.inj hhanded).symm

/-- The own key is looked for, and then the own certificate. -/
theorem accessed_ownFiles (env : PrepareEnv) (config : TASE2ClientConfig) (tls : Handle) :
    (ownFiles env config tls).filterMap accessedFile = keyFiles env config true ++
      (ownNames config).map (certificatePath env.dataDir) := by
  unfold ownFiles keyFiles ownNames
  split
  · rfl
  · dsimp only
    rw [List.filterMap_append, accessed_loadFile, accessed_loadFile]
    rfl

/-- The certificates of a list are looked for in their order. -/
theorem accessed_otherFiles (dataDir : String) (tls : Handle) (files : List String)
    (enable : Bool → TlsCall) (add : String → Bool → TlsCall) (outcome : Nat → FileOutcome) :
    (otherFiles dataDir tls files enable add outcome).filterMap accessedFile =
      files.map (certificatePath dataDir) := by
  rw [otherFiles, List.filterMap_cons_none rfl, List.filterMap_flatMap]
  simp only [accessed_loadFile, ← List.map_eq_flatMap]
  rw [← Function.comp_def, ← List.map_map, List.zipIdx_map_fst]

/-- The set-up looks for the own key and then for each certificate. -/
theorem accessed_tlsCalls (env : PrepareEnv) (config : TASE2ClientConfig) (tls : Handle) :
    (tlsCalls env config tls).filterMap accessedFile = keyFiles env config true ++
      (certificateNames config true).map (certificatePath env.dataDir) := by
  rw [tlsCalls, List.filterMap_append, List.filterMap_append, List.filterMap_cons_none rfl,
    accessed_ownFiles, accessed_otherFiles, accessed_otherFiles,
    certificateNames, if_pos rfl]
  simp only [List.map_append, List.append_assoc]

private theorem handed_otherFiles {dataDir : String} {tls : Handle} {files : List String}
    {enable : Bool → TlsCall} {add : String → Bool → TlsCall} {outcome : Nat → FileOutcome}
    (henable : ∀ value, handedFile (.tls tls (enable value)) = none)
    (hadd : ∀ file loaded, handedFile (.tls tls (add file loaded)) = some file) :
    ∀ f ∈ (otherFiles dataDir tls files enable add outcome).filterMap handedFile,
      f ∈ files.map (certificatePath dataDir) := by
  intro f hf
  rw [otherFiles, List.filterMap_cons_none (henable _), List.filterMap_flatMap,
    List.mem_flatMap] at hf
  obtain ⟨name, hname, hf⟩ := hf
  rw [handed_loadFile (hadd _) _ f hf]
  exact List.mem_map_of_mem (List.fst_mem_of_mem_zipIdx hname)

private theorem handed_ownFiles {env : PrepareEnv} {config : TASE2ClientConfig} {tls : Handle} :
    ∀ f ∈ (ownFiles env config tls).filterMap handedFile,
      f ∈ (ownFiles env config tls).filterMap accessedFile := by
  intro f hf
  rw [accessed_ownFiles]
  unfold ownFiles keyFiles ownNames at *
  split at hf
  · cases hf
  · next hconfigured =>
    dsimp only at hf
    rw [if_pos rfl, if_neg hconfigured]
    rw [List.filterMap_append, List.mem_append] at hf
    rcases hf with hf | hf
    · rw [handed_loadFile (fun _ ↦ rfl) _ f hf]
      exact List.mem_cons_self
    · rw [handed_loadFile (fun _ ↦ rfl) _ f hf]
      exact List.mem_cons_of_mem _ List.mem_cons_self

/-- The set-up hands over none but the files that it looks for. -/
theorem handed_tlsCalls {env : PrepareEnv} {config : TASE2ClientConfig} {tls : Handle} :
    ∀ f ∈ (tlsCalls env config tls).filterMap handedFile,
      f ∈ (tlsCalls env config tls).filterMap accessedFile := by
  intro f hf
  rw [tlsCalls, List.cons_append, List.cons_append, List.filterMap_cons_none rfl,
    List.filterMap_append, List.filterMap_append, List.mem_append, List.mem_append] at hf ⊢
  rw [accessed_otherFiles, accessed_otherFiles]
  rcases hf with (hf | hf) | hf
  · exact .inl (.inl (handed_ownFiles f hf))
  · exact .inl (.inr (handed_otherFiles (fun _ ↦ rfl) (fun _ _ ↦ rfl) f hf))
  · exact .inr (handed_otherFiles (fun _ ↦ rfl) (fun _ _ ↦ rfl) f hf)

/-! ### What an attempt looks for -/

/-- A session goes on with the TLS set-up and with calls that name no file. -/
def NamesFilesOf (setup : List LibCall) (s t : Session) : Prop :=
  ∃ rest, t.calls = s.calls ++ (setup ++ rest) ∧ ∀ c ∈ rest, NamesNoFile c

/-- More calls that name no file change nothing. -/
theorem NamesFilesOf.append {setup new : List LibCall} {s t u : Session}
    (h : NamesFilesOf setup s t) (hcalls : u.calls = t.calls ++ new)
    (hnew : ∀ c ∈ new, NamesNoFile c) : NamesFilesOf setup s u := by
  obtain ⟨rest, heq, hrest⟩ := h
  refine ⟨rest ++ new, ?_, List.forall_mem_append.mpr ⟨hrest, hnew⟩⟩
  rw [hcalls, heq, List.append_assoc, List.append_assoc]

/-- Creating the endpoint names the files of the set-up. -/
theorem namesFilesOf_createEndpoint (s : Session) (env : PrepareEnv) (config : TASE2ClientConfig)
    (useTls : Bool) :
    NamesFilesOf (if useTls then tlsCalls env config s.nextHandle else []) s
      (s.createEndpoint env config useTls) := by
  obtain ⟨rest, hcalls, hrest⟩ := calls_createEndpoint s env config useTls
  refine ⟨rest, hcalls, fun c hc ↦ ?_⟩
  rcases hrest c hc with ⟨_, rfl⟩ | ⟨_, rfl⟩ | ⟨_, _, rfl⟩
  · exact ⟨rfl, rfl⟩
  · exact ⟨rfl, rfl⟩
  · exact ⟨rfl, rfl⟩

/-- The rest of the preparation names no file. -/
theorem namesFilesOf_prepareConnection {s t : Session} {env : PrepareEnv}
    {config : TASE2ClientConfig} {useTls : Bool} {serverIp : String} {tcpPort : Int}
    {osiParameters : Option OsiParameters} {prepared : Bool}
    (h : s.prepareConnection env config useTls serverIp tcpPort osiParameters =
      .ok (prepared, t)) :
    NamesFilesOf (if useTls then tlsCalls env config s.nextHandle else []) s t := by
  have hcreate := namesFilesOf_createEndpoint s env config useTls
  cases hendpoint : (s.createEndpoint env config useTls).endpoint with
  | none =>
    have hrefused : s.prepareConnection env config useTls serverIp tcpPort osiParameters =
        .ok (false, s.createEndpoint env config useTls) := by
      rw [Session.createEndpoint] at hendpoint ⊢
      simp only [Session.prepareConnection, hendpoint, pure_eq_ok]
    rw [hrefused] at h
    cases h
    exact hcreate
  | some endpoint =>
    rw [Session.prepareConnection_of_obtained hendpoint] at h
    cases osiParameters with
    | none => cases h
    | some osiParams =>
      cases h
      refine hcreate.append (continues_createClient _ endpoint serverIp tcpPort osiParams
        env).calls_eq fun c hc ↦ ?_
      simp only [List.mem_append, List.mem_cons, List.not_mem_nil, or_false, List.mem_map] at hc
      rcases hc with ((rfl | rfl) | ⟨call, -, rfl⟩) | rfl
      · exact ⟨rfl, rfl⟩
      · exact ⟨rfl, rfl⟩
      · exact ⟨rfl, rfl⟩
      · exact ⟨rfl, rfl⟩

/-- The files that are looked for are those of the set-up, and no other is handed over. -/
theorem NamesFilesOf.files {setup : List LibCall} {s t : Session} (h : NamesFilesOf setup s t) :
    (callsSince s t).filterMap accessedFile = setup.filterMap accessedFile ∧
      (callsSince s t).filterMap handedFile = setup.filterMap handedFile := by
  obtain ⟨rest, hcalls, hrest⟩ := h
  have haccessed : rest.filterMap accessedFile = [] :=
    List.filterMap_eq_nil_iff.mpr fun c hc ↦ (hrest c hc).1
  have hhanded : rest.filterMap handedFile = [] :=
    List.filterMap_eq_nil_iff.mpr fun c hc ↦ (hrest c hc).2
  rw [callsSince, hcalls, List.drop_left, List.filterMap_append, List.filterMap_append, haccessed,
    hhanded, List.append_nil, List.append_nil]
  exact ⟨rfl, rfl⟩

/-- The certificates of a session that names the files of a set-up are all taken by their suffix
unless a name has three bytes. -/
theorem NamesFilesOf.takesBySuffix_iff {s t : Session} {env : PrepareEnv}
    {config : TASE2ClientConfig} {useTls : Bool}
    (h : NamesFilesOf (if useTls then tlsCalls env config s.nextHandle else []) s t)
    (hsize : ∀ name ∈ certificateNames config useTls, FitsSizeT name) :
    TakesBySuffix env config useTls (callsSince s t) ↔
      ∀ name ∈ certificateNames config useTls, (bytesOf name).length ≠ 3 := by
  obtain ⟨haccessed, hhanded⟩ := h.files
  have hfound : (callsSince s t).filterMap accessedFile = keyFiles env config useTls ++
      (certificateNames config useTls).map (certificatePath env.dataDir) := by
    rw [haccessed]
    cases useTls with
    | false => rfl
    | true => exact accessed_tlsCalls env config s.nextHandle
  have hnone : ∀ f ∈ (callsSince s t).filterMap handedFile,
      f ∈ (callsSince s t).filterMap accessedFile := by
    rw [haccessed, hhanded]
    cases useTls with
    | false => exact fun f hf ↦ by cases hf
    | true => exact handed_tlsCalls
  have hpaths : (certificateNames config useTls).map (certificatePath env.dataDir) =
      (certificateNames config useTls).map (pathBySuffix env.dataDir) ↔
        ∀ name ∈ certificateNames config useTls, (bytesOf name).length ≠ 3 := by
    rw [List.map_inj_left]
    exact forall₂_congr fun name hname ↦ certificatePath_eq_iff (hsize name hname)
  rw [← hpaths]
  constructor
  · intro htakes
    have heq := htakes.accessed
    rw [hfound] at heq
    exact List.append_cancel_left heq
  · intro heq
    refine ⟨?_, hnone⟩
    rw [hfound, heq]

/-! ### Every attempt -/

/-- An attempt takes its certificates by their suffix, whether the preparation ends or not: the
files are looked for before the endpoint is there. -/
structure PreparesBySuffix (s : Session) (env : PrepareEnv) (config : TASE2ClientConfig)
    (useTls : Bool) : Prop where
  created : TakesBySuffix env config useTls (callsSince s (s.createEndpoint env config useTls))
  prepared : ∀ serverIp tcpPort osiParameters prepared t,
    s.prepareConnection env config useTls serverIp tcpPort osiParameters = .ok (prepared, t) →
      TakesBySuffix env config useTls (callsSince s t)

/-- An attempt takes every certificate from the directory of its suffix exactly when no name has
three bytes. -/
theorem preparesBySuffix_iff (s : Session) (env : PrepareEnv) (config : TASE2ClientConfig)
    (useTls : Bool) (hsize : ∀ name ∈ certificateNames config useTls, FitsSizeT name) :
    PreparesBySuffix s env config useTls ↔
      ∀ name ∈ certificateNames config useTls, (bytesOf name).length ≠ 3 := by
  have hcreate := (namesFilesOf_createEndpoint s env config useTls).takesBySuffix_iff hsize
  constructor
  · intro h
    exact hcreate.mp h.created
  · intro h
    refine ⟨hcreate.mpr h, fun _ _ _ _ _ hprepare ↦ ?_⟩
    exact ((namesFilesOf_prepareConnection hprepare).takesBySuffix_iff hsize).mpr h

/-- A certificate with a suffix is taken by it. -/
theorem preparesBySuffix_iff_pem : PreparesBySuffix Session.initial
    (IterationEnv.plain 0 false).prepare
    { TASE2ClientConfig.fresh with privateKey := "key.der", ownCertificate := "cert.pem" }
    true := by
  refine (preparesBySuffix_iff Session.initial _ _ true ?_).mpr ?_
  · intro name hname
    cases List.mem_singleton.mp hname
    decide
  · intro name hname
    cases List.mem_singleton.mp hname
    decide

/-- A certificate whose name has three bytes and no suffix is looked for among the `.pem` files. -/
theorem not_preparesBySuffix_abc : ¬ PreparesBySuffix Session.initial
    (IterationEnv.plain 0 false).prepare
    { TASE2ClientConfig.fresh with privateKey := "key.der", ownCertificate := "abc" } true := by
  intro h
  have haccessed := h.created.accessed
  revert haccessed
  decide

end Tase2South.Connection
