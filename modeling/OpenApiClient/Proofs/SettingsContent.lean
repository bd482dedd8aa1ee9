import OpenApiClient.Proofs.SectionEntries

/-! What the content of a settings file says.
Each setting is what the value under its name means, in its section, or its default; nothing else in
the file has a say in it. A content gives settings exactly if its keys are texts, no known name
comes twice in a section, and the value under each known name means something. -/
namespace OpenApiClient.Settings

open Yaml (Node Tree)

structure RemoteTold (tree : Tree) (pairs : List (Node × Node)) (remote : RemoteSettings) :
    Prop where
  keyed : Keyed tree pairs
  enabled : Says tree pairs "enabled" (Reads boolEntry tree) true remote.enabled
  baseUrl : Says tree pairs "baseURL" (Reads (textEntry "a string") tree) "http://localhost:3000"
    remote.baseUrl
  specEndpoint : Says tree pairs "specEndpoint" (Reads (textEntry "a string") tree) "/openapi.json"
    remote.specEndpoint
  timeout : Says tree pairs "timeout" (Reads (naturalEntry UInt64.size "u64") tree) 10000
    remote.timeout
  retries : Says tree pairs "retries" (Reads (naturalEntry UInt32.size "u32") tree) 3 remote.retries
  retryDelay : Says tree pairs "retryDelay" (Reads (naturalEntry UInt64.size "u64") tree) 1000
    remote.retryDelay
  saveLocal : Says tree pairs "saveLocal" (Reads boolEntry tree) true remote.saveLocal

/-- What the pairs of the section on the client say; there is one client library to choose. -/
structure ClientTold (tree : Tree) (pairs : List (Node × Node)) (client : ClientOptions) :
    Prop where
  keyed : Keyed tree pairs
  toJavaScript : Says tree pairs "toJS" (Reads boolEntry tree) false client.toJavaScript
  library : Says tree pairs "httpClientType" (Reads clientEntry tree) () ()
  unwrapResponseData : Says tree pairs "unwrapResponseData" (Reads boolEntry tree) false
    client.unwrapResponseData
  clientName : Says tree pairs "clientName" (Reads (textEntry "a string") tree) "ApiClient"
    client.clientName

/-- What the pairs of a file say, where two names are those of sections with pairs of their own. -/
structure FileTold (tree : Tree) (pairs remotePairs clientPairs : List (Node × Node))
    (file : Settings) : Prop where
  keyed : Keyed tree pairs
  openApiSpec : Says tree pairs "openApiSpec" (Reads (textEntry "a string") tree) "./openapi.json"
    file.openApiSpec
  localFallback : Says tree pairs "localFallback" (Reads (textEntry "path string") tree)
    "./openapi.json" file.localFallback
  remoteSection : Says tree pairs "remote"
    (fun node inner => sectionPairs? tree node = some inner) [] remotePairs
  remote : RemoteTold tree remotePairs file.remote
  outputDir : Says tree pairs "outputDir" (Reads (textEntry "path string") tree)
    "./src/api/generated" file.outputDir
  fileName : Says tree pairs "fileName" (Reads optionalEntry tree) none file.fileName
  clientSection : Says tree pairs "generateOptions"
    (fun node inner => sectionPairs? tree node = some inner) [] clientPairs
  client : ClientTold tree clientPairs file.client

def filePairs? (tree : Tree) : Option (List (Node × Node)) :=
  match tree.root with
  | none => some []
  | some root => sectionPairs? tree root

def PairsTold (tree : Tree) (pairs : List (Node × Node)) (file : Settings) : Prop :=
  ∃ remotePairs clientPairs, FileTold tree pairs remotePairs clientPairs file

def ContentTold (tree : Tree) (file : Settings) : Prop :=
  ∃ pairs, filePairs? tree = some pairs ∧ PairsTold tree pairs file

variable {tree : Tree} {pairs : List (Node × Node)}

theorem remote_parts :
    Part remoteEntries "enabled" boolEntry RemoteSettings.enabled ∧
    Part remoteEntries "baseURL" (textEntry "a string") RemoteSettings.baseUrl ∧
    Part remoteEntries "specEndpoint" (textEntry "a string") RemoteSettings.specEndpoint ∧
    Part remoteEntries "timeout" (naturalEntry UInt64.size "u64") RemoteSettings.timeout ∧
    Part remoteEntries "retries" (naturalEntry UInt32.size "u32") RemoteSettings.retries ∧
    Part remoteEntries "retryDelay" (naturalEntry UInt64.size "u64") RemoteSettings.retryDelay ∧
    Part remoteEntries "saveLocal" boolEntry RemoteSettings.saveLocal := by
  refine ⟨⟨⟨_, rfl, fun _ _ => rfl⟩, ?_⟩, ⟨⟨_, rfl, fun _ _ => rfl⟩, ?_⟩,
    ⟨⟨_, rfl, fun _ _ => rfl⟩, ?_⟩, ⟨⟨_, rfl, fun _ _ => rfl⟩, ?_⟩, ⟨⟨_, rfl, fun _ _ => rfl⟩, ?_⟩,
    ⟨⟨_, rfl, fun _ _ => rfl⟩, ?_⟩, ⟨⟨_, rfl, fun _ _ => rfl⟩, ?_⟩⟩
  all_goals
    unfold remoteEntries
    repeat rw [List.forall_mem_cons]
    exact ⟨entry_keeps (by simp), entry_keeps (by simp), entry_keeps (by simp),
      entry_keeps (by simp), entry_keeps (by simp), entry_keeps (by simp), entry_keeps (by simp),
      by simp⟩

theorem client_parts :
    Part clientEntries "toJS" boolEntry ClientOptions.toJavaScript ∧
    Part clientEntries "httpClientType" clientEntry (fun _ => ()) ∧
    Part clientEntries "unwrapResponseData" boolEntry ClientOptions.unwrapResponseData ∧
    Part clientEntries "clientName" (textEntry "a string") ClientOptions.clientName := by
  refine ⟨⟨⟨_, rfl, fun _ _ => rfl⟩, ?_⟩, ⟨⟨_, rfl, fun _ _ => rfl⟩, ?_⟩,
    ⟨⟨_, rfl, fun _ _ => rfl⟩, ?_⟩, ⟨⟨_, rfl, fun _ _ => rfl⟩, ?_⟩⟩
  all_goals
    unfold clientEntries
    repeat rw [List.forall_mem_cons]
    exact ⟨entry_keeps (by simp), entry_keeps (by simp), entry_keeps (by simp),
      entry_keeps (by simp), by simp⟩

theorem parts :
    Part entries "openApiSpec" (textEntry "a string") Settings.openApiSpec ∧
    Part entries "localFallback" (textEntry "path string") Settings.localFallback ∧
    Part entries "remote" (sectionEntry "struct RemoteConfig" remoteEntries {}) Settings.remote ∧
    Part entries "outputDir" (textEntry "path string") Settings.outputDir ∧
    Part entries "fileName" optionalEntry Settings.fileName ∧
    Part entries "generateOptions" (sectionEntry "struct GenerateOptions" clientEntries {})
      Settings.client := by
  refine ⟨⟨⟨_, rfl, fun _ _ => rfl⟩, ?_⟩, ⟨⟨_, rfl, fun _ _ => rfl⟩, ?_⟩,
    ⟨⟨_, rfl, fun _ _ => rfl⟩, ?_⟩, ⟨⟨_, rfl, fun _ _ => rfl⟩, ?_⟩, ⟨⟨_, rfl, fun _ _ => rfl⟩, ?_⟩,
    ⟨⟨_, rfl, fun _ _ => rfl⟩, ?_⟩⟩
  all_goals
    unfold entries
    repeat rw [List.forall_mem_cons]
    exact ⟨entry_keeps (by simp), entry_keeps (by simp), entry_keeps (by simp),
      entry_keeps (by simp), entry_keeps (by simp), entry_keeps (by simp), by simp⟩

theorem RemoteTold.unique {a b : RemoteSettings} (told : RemoteTold tree pairs a)
    (told' : RemoteTold tree pairs b) : a = b := by
  cases a
  cases b
  simp only [RemoteSettings.mk.injEq]
  exact ⟨told.enabled.unique_read told'.enabled, told.baseUrl.unique_read told'.baseUrl,
    told.specEndpoint.unique_read told'.specEndpoint, told.timeout.unique_read told'.timeout,
    told.retries.unique_read told'.retries, told.retryDelay.unique_read told'.retryDelay,
    told.saveLocal.unique_read told'.saveLocal⟩

theorem ClientTold.unique {a b : ClientOptions} (told : ClientTold tree pairs a)
    (told' : ClientTold tree pairs b) : a = b := by
  cases a
  cases b
  simp only [ClientOptions.mk.injEq]
  exact ⟨told.toJavaScript.unique_read told'.toJavaScript,
    told.unwrapResponseData.unique_read told'.unwrapResponseData,
    told.clientName.unique_read told'.clientName⟩

theorem remote_read {remote : RemoteSettings} :
    readPairs remoteEntries tree {} [] pairs = .ok remote ↔ RemoteTold tree pairs remote := by
  obtain ⟨enabled, baseUrl, specEndpoint, timeout, retries, retryDelay, saveLocal⟩ := remote_parts
  refine readPairs_exact (fun remote h => ?_) (fun _ _ => RemoteTold.unique) RemoteTold.keyed
    fun told => ?_
  · have fresh (name : String) : name ∉ ([] : List String) := List.not_mem_nil
    exact ⟨readPairs_keyed h, enabled.told (fresh _) h, baseUrl.told (fresh _) h,
      specEndpoint.told (fresh _) h, timeout.told (fresh _) h, retries.told (fresh _) h,
      retryDelay.told (fresh _) h, saveLocal.told (fresh _) h⟩
  · unfold remoteEntries
    repeat rw [List.forall_mem_cons]
    exact ⟨told.enabled.fits, told.baseUrl.fits, told.specEndpoint.fits, told.timeout.fits,
      told.retries.fits, told.retryDelay.fits, told.saveLocal.fits, by simp⟩

theorem client_read {client : ClientOptions} :
    readPairs clientEntries tree {} [] pairs = .ok client ↔ ClientTold tree pairs client := by
  obtain ⟨toJavaScript, library, unwrapResponseData, clientName⟩ := client_parts
  refine readPairs_exact (fun client h => ?_) (fun _ _ => ClientTold.unique) ClientTold.keyed
    fun told => ?_
  · have fresh (name : String) : name ∉ ([] : List String) := List.not_mem_nil
    exact ⟨readPairs_keyed h, toJavaScript.told (fresh _) h, library.told (fresh _) h,
      unwrapResponseData.told (fresh _) h, clientName.told (fresh _) h⟩
  · unfold clientEntries
    repeat rw [List.forall_mem_cons]
    exact ⟨told.toJavaScript.fits, told.library.fits, told.unwrapResponseData.fits,
      told.clientName.fits, by simp⟩

theorem FileTold.unique {remotePairs clientPairs remotePairs' clientPairs' : List (Node × Node)}
    {a b : Settings} (told : FileTold tree pairs remotePairs clientPairs a)
    (told' : FileTold tree pairs remotePairs' clientPairs' b) : a = b := by
  have same : ∀ (node : Node) inner inner', sectionPairs? tree node = some inner →
      sectionPairs? tree node = some inner' → inner = inner' :=
    fun _ _ _ here there => Option.some.inj (here.symm.trans there)
  obtain rfl := told.remoteSection.unique same told'.remoteSection
  obtain rfl := told.clientSection.unique same told'.clientSection
  cases a
  cases b
  simp only [Settings.mk.injEq]
  exact ⟨told.openApiSpec.unique_read told'.openApiSpec,
    told.localFallback.unique_read told'.localFallback, told.remote.unique told'.remote,
    told.outputDir.unique_read told'.outputDir, told.fileName.unique_read told'.fileName,
    told.client.unique told'.client⟩

theorem file_read {file : Settings} :
    readPairs entries tree {} [] pairs = .ok file ↔ PairsTold tree pairs file := by
  obtain ⟨openApiSpec, localFallback, remote, outputDir, fileName, client⟩ := parts
  refine readPairs_exact (fun file h => ?_) ?_ ?_ ?_
  · have fresh (name : String) : name ∉ ([] : List String) := List.not_mem_nil
    obtain ⟨remotePairs, there, told⟩ := (says_section remote_read).mp (remote.told (fresh _) h)
    obtain ⟨clientPairs, there', told'⟩ := (says_section client_read).mp (client.told (fresh _) h)
    exact ⟨remotePairs, clientPairs, readPairs_keyed h, openApiSpec.told (fresh _) h,
      localFallback.told (fresh _) h, there, told, outputDir.told (fresh _) h,
      fileName.told (fresh _) h, there', told'⟩
  · rintro a b ⟨_, _, told⟩ ⟨_, _, told'⟩
    exact told.unique told'
  · rintro ⟨_, _, told⟩
    exact told.keyed
  · rintro ⟨remotePairs, clientPairs, told⟩
    have remoteTold : Says tree pairs "remote"
        (Reads (sectionEntry "struct RemoteConfig" remoteEntries {}) tree) {} file.remote :=
      (says_section remote_read).mpr ⟨remotePairs, told.remoteSection, told.remote⟩
    have clientTold : Says tree pairs "generateOptions"
        (Reads (sectionEntry "struct GenerateOptions" clientEntries {}) tree) {} file.client :=
      (says_section client_read).mpr ⟨clientPairs, told.clientSection, told.client⟩
    unfold entries
    repeat rw [List.forall_mem_cons]
    exact ⟨told.openApiSpec.fits, told.localFallback.fits, remoteTold.fits, told.outputDir.fits,
      told.fileName.fits, clientTold.fits, by simp⟩

/-- A content gives the settings that it tells, and none if it tells none. -/
theorem ofTree_ok {file : Settings} : ofTree tree = .ok file ↔ ContentTold tree file := by
  unfold ofTree ContentTold filePairs?
  cases tree.root with
  | none =>
    simp only [Option.some.injEq, exists_eq_left', ← file_read]
    rfl
  | some root =>
    simp only [sectionEntry_ok, file_read]

end OpenApiClient.Settings
