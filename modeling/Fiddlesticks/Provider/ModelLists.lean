import Fiddlesticks.Provider.Model

/-!
# The model lists of the adapters

`list_zen_models_with_api_key` and `list_ollama_models_with_base_url`, with the `truncate` that each
of them uses on the body of a failed response. The HTTP client is a parameter. Cutting a string
inside a character panics, so a long body is truncated exactly when the limit is between two of its
characters (`error_body_truncated_iff`).
-/

namespace Fiddlesticks.Provider

/-! ## Responses -/

/-- `reqwest::Error`: whether it is a timeout, and its text. -/
structure RequestError where
  isTimeout : Bool
  text : String
  deriving DecidableEq, Repr

/-- The error of a request that was not answered. -/
def RequestError.toProviderError (error : RequestError) : ProviderError :=
  if error.isTimeout then .timeout error.text else .transport error.text

/-- `StatusCode`, with its canonical reason. -/
structure StatusCode where
  code : UInt16
  reason : Option String
  deriving DecidableEq, Repr

/-- `StatusCode::is_success`. -/
def StatusCode.isSuccess (status : StatusCode) : Bool :=
  200 ≤ status.code && status.code < 300

/-- `Display for StatusCode`. -/
def StatusCode.display (status : StatusCode) : String :=
  let reason := status.reason.getD "<unknown status code>"
  s!"{status.code} {reason}"

/-- `Response`: its status, what reading it as a text gives, and what parsing it as the JSON of a
model list gives, by the identifiers of the models. -/
structure HttpResponse where
  status : StatusCode
  text : Except RequestError String
  json : Except RequestError (List String)

/-- `response.text().await.unwrap_or_default()`. -/
def HttpResponse.body (response : HttpResponse) : String :=
  match response.text with
  | .ok text => text
  | .error _ => ""

/-- A `GET` request, with its bearer token. -/
structure HttpGet where
  url : String
  bearer : Option String
  deriving DecidableEq, Repr

/-- What `Client::send` answers. -/
abbrev Client := HttpGet → Except RequestError HttpResponse

/-! ## Truncation -/

/-- `str::is_char_boundary`. -/
def IsCharBoundary (input : String) (index : Nat) : Prop :=
  (⟨index⟩ : String.Pos.Raw).IsValid input

instance (input : String) (index : Nat) : Decidable (IsCharBoundary input index) :=
  inferInstanceAs (Decidable ((⟨index⟩ : String.Pos.Raw).IsValid input))

/-- `input[..end]`, which panics where `end` is not a character boundary. -/
def sliceTo (input : String) (index : Nat) : Option String :=
  if h : IsCharBoundary input index then some (input.sliceTo ⟨⟨index⟩, h⟩).copy else none

/-- The `truncate` of the adapters: no result is a panic. -/
def truncateBody (input : String) (max : Nat) : Option String :=
  if input.utf8ByteSize ≤ max then some input
  else (sliceTo input max).map (· ++ "...")

/-- What a response that is not an authentication failure comes to, with the `truncate` of its
adapter. -/
def listedModels (truncate : String → Nat → Option String) (response : HttpResponse) :
    Option (Except ProviderError (List String)) :=
  if !response.status.isSuccess then
    (truncate response.body 4096).map fun text =>
      .error (.transport s!"http {response.status.display}: {text}")
  else
    match response.json with
    | .error error => some (.error (.transport error.text))
    | .ok ids => some (.ok (ids.mergeSort fun first second => decide (first ≤ second)))

namespace OpenCodeZen

/-- `OPENCODE_ZEN_MODELS_URL`. -/
def modelsUrl : String := "https://opencode.ai/zen/v1/models"

/-- `truncate`. -/
def truncate (input : String) (max : Nat) : Option String :=
  truncateBody input max

/-- `list_zen_models_with_api_key`. -/
def listZenModelsWithApiKey (send : Client) (apiKey : String) :
    Option (Except ProviderError (List String)) :=
  let trimmed := trim apiKey
  if trimmed = "" then some (.error (.authentication "OpenCode Zen API key must not be empty"))
  else
    match send ⟨modelsUrl, some trimmed⟩ with
    | .error error => some (.error error.toProviderError)
    | .ok response =>
        if response.status.code = 401 ∨ response.status.code = 403 then
          some (.error (.authentication "OpenCode Zen API key is invalid or expired"))
        else listedModels truncate response

end OpenCodeZen

namespace Ollama

/-- The address of the tags below a base URL. -/
def tagsUrl (baseUrl : String) : String :=
  String.ofList (baseUrl.toList.rdropWhile (· = '/')) ++ "/api/tags"

/-- `truncate`. -/
def truncate (input : String) (max : Nat) : Option String :=
  truncateBody input max

/-- `list_ollama_models_with_base_url`. -/
def listOllamaModelsWithBaseUrl (send : Client) (baseUrl : String) :
    Option (Except ProviderError (List String)) :=
  match send ⟨tagsUrl baseUrl, none⟩ with
  | .error error => some (.error error.toProviderError)
  | .ok response => listedModels truncate response

end Ollama

/-! ## What is truncated -/

/-- The input is returned when it is short enough, otherwise a prefix of it that is, with dots. -/
def Truncated (input : String) (max : Nat) (output : String) : Prop :=
  (input.utf8ByteSize ≤ max → output = input) ∧
    (max < input.utf8ByteSize → ∃ start rest, input = start ++ rest ∧
      start.utf8ByteSize ≤ max ∧ output = start ++ "...")

/-- The limit does not fall inside a character of the input. -/
def CanTruncate (input : String) (max : Nat) : Prop :=
  input.utf8ByteSize ≤ max ∨ IsCharBoundary input max

/-- A slice is the prefix of its length. -/
theorem exists_sliceTo {input : String} {index : Nat} (h : IsCharBoundary input index) :
    ∃ start rest, sliceTo input index = some start ∧ input = start ++ rest ∧
      start.utf8ByteSize = index := by
  refine ⟨_, _, dif_pos h, String.sliceTo_append_sliceFrom.symm, ?_⟩
  rw [String.Slice.utf8ByteSize_copy, String.utf8ByteSize_sliceTo]

/-- Truncation panics exactly when the limit falls inside a character. -/
theorem truncateBody_isSome_iff (input : String) (max : Nat) :
    (truncateBody input max).isSome ↔ CanTruncate input max := by
  rw [truncateBody, CanTruncate]
  by_cases hshort : input.utf8ByteSize ≤ max
  · simp [hshort]
  · simp [hshort, sliceTo]

/-- Where it does not panic, the input is truncated. -/
theorem truncated_of_eq {input : String} {max : Nat} {output : String}
    (h : truncateBody input max = some output) : Truncated input max output := by
  rw [truncateBody] at h
  by_cases hshort : input.utf8ByteSize ≤ max
  · rw [if_pos hshort, Option.some.injEq] at h
    exact ⟨fun _ => h.symm, fun hlong => absurd hshort (not_le.mpr hlong)⟩
  · rw [if_neg hshort] at h
    by_cases hboundary : IsCharBoundary input max
    · obtain ⟨start, rest, hslice, hinput, hsize⟩ := exists_sliceTo hboundary
      rw [hslice, Option.map_some, Option.some.injEq] at h
      exact ⟨fun hle => absurd hle hshort, fun _ => ⟨start, rest, hinput, hsize.le, h.symm⟩⟩
    · simp [sliceTo, hboundary] at h

example : truncateBody "aéé" 3 = some "aé..." ∧ truncateBody "aéé" 2 = none := by decide +kernel

/-- A body is truncated as it should be when it can be cut where the code cuts it. -/
theorem exists_truncated_iff (input : String) (max : Nat) :
    (∃ output, truncateBody input max = some output ∧ Truncated input max output) ↔
      CanTruncate input max := by
  rw [← truncateBody_isSome_iff, Option.isSome_iff_exists]
  exact ⟨fun ⟨output, houtput, _⟩ => ⟨output, houtput⟩,
    fun ⟨output, houtput⟩ => ⟨output, houtput, truncated_of_eq houtput⟩⟩

/-- A listing that fails reports the status and the truncated body. -/
theorem listedModels_of_failed {truncate : String → Nat → Option String} {response : HttpResponse}
    (hstatus : response.status.isSuccess = false) :
    listedModels truncate response = (truncate response.body 4096).map fun text =>
      .error (.transport s!"http {response.status.display}: {text}") := by
  simp only [listedModels, hstatus, Bool.not_false, if_true]

/-- A failed response ends in its transport error exactly when its body can be truncated. -/
theorem listedModels_error_iff {response : HttpResponse}
    (hstatus : response.status.isSuccess = false) :
    (∃ text, Truncated response.body 4096 text ∧ listedModels truncateBody response =
        some (.error (.transport s!"http {response.status.display}: {text}"))) ↔
      CanTruncate response.body 4096 := by
  rw [← exists_truncated_iff, listedModels_of_failed hstatus]
  constructor
  · intro hreported
    obtain ⟨text, -, hlisted⟩ := hreported
    obtain ⟨output, houtput, -⟩ := Option.map_eq_some_iff.mp hlisted
    exact ⟨output, houtput, truncated_of_eq houtput⟩
  · intro htruncates
    obtain ⟨output, houtput, htruncated⟩ := htruncates
    exact ⟨output, htruncated, by rw [houtput, Option.map_some]⟩

/-- Both `truncate` helpers do what they are for on exactly the inputs whose limit falls on a
character boundary or is not exceeded, and panic on all others. So both listings end in the
transport error of a failed response exactly when that holds of its body. -/
theorem error_body_truncated_iff (input : String) (max : Nat) (send : Client)
    (apiKey baseUrl : String) (response : HttpResponse) :
    ((∃ output, OpenCodeZen.truncate input max = some output ∧ Truncated input max output) ↔
      CanTruncate input max) ∧
    ((∃ output, Ollama.truncate input max = some output ∧ Truncated input max output) ↔
      CanTruncate input max) ∧
    (trim apiKey ≠ "" → send ⟨OpenCodeZen.modelsUrl, some (trim apiKey)⟩ = .ok response →
      response.status.code ≠ 401 → response.status.code ≠ 403 →
      response.status.isSuccess = false →
      ((∃ text, Truncated response.body 4096 text ∧
          OpenCodeZen.listZenModelsWithApiKey send apiKey =
            some (.error (.transport s!"http {response.status.display}: {text}"))) ↔
        CanTruncate response.body 4096)) ∧
    (send ⟨Ollama.tagsUrl baseUrl, none⟩ = .ok response → response.status.isSuccess = false →
      ((∃ text, Truncated response.body 4096 text ∧
          Ollama.listOllamaModelsWithBaseUrl send baseUrl =
            some (.error (.transport s!"http {response.status.display}: {text}"))) ↔
        CanTruncate response.body 4096)) := by
  refine ⟨exists_truncated_iff input max, exists_truncated_iff input max, ?_, ?_⟩
  · intro hkey hsend hunauthorized hforbidden hstatus
    have hlisted : OpenCodeZen.listZenModelsWithApiKey send apiKey =
        listedModels truncateBody response := by
      rw [OpenCodeZen.listZenModelsWithApiKey, if_neg hkey, hsend]
      exact if_neg (not_or.mpr ⟨hunauthorized, hforbidden⟩)
    rw [hlisted]
    exact listedModels_error_iff hstatus
  · intro hsend hstatus
    rw [Ollama.listOllamaModelsWithBaseUrl, hsend]
    exact listedModels_error_iff hstatus

/-- A missing page with a short body. -/
def plainNotFound : HttpResponse where
  status := ⟨404, some "Not Found"⟩
  text := .ok "not found"
  json := .error ⟨false, "expected value at line 1 column 1"⟩

/-- The two listings end in the transport error of the short page. -/
theorem error_body_truncated_plain :
    (∃ text, Truncated plainNotFound.body 4096 text ∧
      OpenCodeZen.listZenModelsWithApiKey (fun _ => .ok plainNotFound) " key\n" =
        some (.error (.transport s!"http {plainNotFound.status.display}: {text}"))) ∧
    ∃ text, Truncated plainNotFound.body 4096 text ∧
      Ollama.listOllamaModelsWithBaseUrl (fun _ => .ok plainNotFound) "http://localhost:11434/" =
        some (.error (.transport s!"http {plainNotFound.status.display}: {text}")) := by
  have hshort : CanTruncate plainNotFound.body 4096 := Or.inl (by decide)
  obtain ⟨-, -, hzen, hollama⟩ := error_body_truncated_iff plainNotFound.body 4096
    (fun _ => .ok plainNotFound) " key\n" "http://localhost:11434/" plainNotFound
  constructor
  · exact (hzen (by decide) rfl (by decide) (by decide) (by decide)).mpr hshort
  · exact (hollama rfl (by decide)).mpr hshort

/-! ## A page of accents -/

/-- One letter, then characters of two bytes each. -/
def accentedPage (count : Nat) : String :=
  String.ofList ('a' :: List.replicate count 'é')

/-- Each accented letter takes two bytes. -/
theorem accents_size (count : Nat) :
    (String.ofList (List.replicate count 'é')).utf8ByteSize = 2 * count := by
  induction count with
  | zero => rfl
  | succ count ih =>
      have hsize : 'é'.utf8Size = 2 := by decide
      rw [List.replicate_succ, String.ofList_cons, String.utf8ByteSize_append, ih,
        String.utf8ByteSize_singleton, hsize]
      omega

/-- The page has an odd number of bytes. -/
theorem accentedPage_size (count : Nat) :
    (accentedPage count).utf8ByteSize = 2 * count + 1 := by
  rw [accentedPage, String.ofList_cons, String.utf8ByteSize_append, accents_size,
    String.utf8ByteSize_singleton]
  have hsize : 'a'.utf8Size = 1 := by decide
  omega

/-- Its character boundaries after the start are odd. -/
theorem accentedPage_boundary {count index : Nat}
    (h : IsCharBoundary (accentedPage count) index) : index = 0 ∨ index % 2 = 1 := by
  obtain ⟨taken, htaken⟩ := String.Pos.Raw.isValid_ofList.mp h
  cases taken with
  | zero => exact Or.inl htaken
  | succ taken =>
      rw [List.take_succ_cons, List.take_replicate] at htaken
      have hsize := accentedPage_size (min taken count)
      rw [accentedPage] at hsize
      have hindex : index = 2 * min taken count + 1 := htaken.trans hsize
      omega

/-- A page that does not fit cannot be cut at an even limit. -/
theorem truncateBody_accentedPage {count max : Nat} (hlong : max < 2 * count + 1)
    (heven : max % 2 = 0) (hpos : 0 < max) : truncateBody (accentedPage count) max = none := by
  have hnot : ¬CanTruncate (accentedPage count) max := by
    intro hcan
    rcases hcan with hshort | hboundary
    · rw [accentedPage_size] at hshort
      omega
    · have := accentedPage_boundary hboundary
      omega
  rw [← truncateBody_isSome_iff] at hnot
  simpa using hnot

/-- A missing page with a body of accents. -/
def accentedNotFound (count : Nat) : HttpResponse where
  status := ⟨404, some "Not Found"⟩
  text := .ok (accentedPage count)
  json := .error ⟨false, "expected value at line 1 column 1"⟩

/-- A long page of accented letters makes the listing panic. -/
theorem listedModels_accentedNotFound {count : Nat} (hlong : 4096 < 2 * count + 1) :
    listedModels truncateBody (accentedNotFound count) = none := by
  have hstatus : (accentedNotFound count).status.isSuccess = false := rfl
  have hbody : (accentedNotFound count).body = accentedPage count := rfl
  rw [listedModels_of_failed hstatus, hbody,
    truncateBody_accentedPage hlong (by omega) (by omega), Option.map_none]

/-- The limit of `4096` is inside a character of a page of `4097` bytes: both helpers panic on it,
and both listings with them. -/
theorem error_body_panics :
    OpenCodeZen.truncate (accentedPage 2048) 4096 = none ∧
    Ollama.truncate (accentedPage 2048) 4096 = none ∧
    OpenCodeZen.listZenModelsWithApiKey (fun _ => .ok (accentedNotFound 2048)) "key" = none ∧
    Ollama.listOllamaModelsWithBaseUrl (fun _ => .ok (accentedNotFound 2048))
      "http://localhost:11434" = none := by
  have hpanic : truncateBody (accentedPage 2048) 4096 = none :=
    truncateBody_accentedPage (by omega) (by omega) (by omega)
  have hlisted : listedModels truncateBody (accentedNotFound 2048) = none :=
    listedModels_accentedNotFound (by omega)
  have hkey : ¬trim "key" = "" := by decide
  have hresponse : ¬((accentedNotFound 2048).status.code = 401 ∨
      (accentedNotFound 2048).status.code = 403) := by decide
  refine ⟨hpanic, hpanic, ?_, ?_⟩
  · rw [OpenCodeZen.listZenModelsWithApiKey, if_neg hkey]
    dsimp only
    rw [if_neg hresponse]
    exact hlisted
  · rw [Ollama.listOllamaModelsWithBaseUrl]
    exact hlisted

end Fiddlesticks.Provider
