import SaasOs.Foundation.PyJson
import SaasOs.Inference.Settlement

/-!
# The provider adapters

An adapter checks a request against what its protocol and the target model declare, sends it, and
translates the answer.  The answer is untrusted: any status, any headers and any body.  What comes
out is a result, a normalized error, or an exception that the adapter does not handle.
-/

namespace SaasOs.Inference

open PyJson (Text Py)

/-! ## Texts -/

def hasSurrogate (t : Text) : Bool :=
  t.any fun c => 0xD800 ≤ c && c < 0xE000

def isStorable (t : Text) : Bool :=
  !hasSurrogate t && !t.any fun c => c = 0

def toStr (t : Text) : String :=
  String.ofList (t.map Char.ofNat)

/-! ## Requests -/

/-- `Capability`. -/
inductive Capability
  | textInput
  | textOutput
  | systemInstructions
  | temperature
  | stopSequences
  deriving DecidableEq

inductive Role
  | user
  | assistant
  deriving DecidableEq

/-- A temperature: a float, `none` if it is not finite, or an integer. -/
inductive Temperature
  | float (value : Option ℚ)
  | int (n : ℤ)

structure AdapterRequest where
  messages : List (Role × Text)
  maxOutputTokens : ℤ
  system : Option Text
  temperature : Option Temperature
  stop : List Text

/-- What an adapter reads of a `ResolvedTarget`. -/
structure ResolvedTarget where
  modelId : String
  capabilities : List Capability

def AdapterRequest.texts (request : AdapterRequest) : List Text :=
  request.system.toList ++ request.messages.map Prod.snd ++ request.stop

/-! ## Answers -/

/-- What `json.loads` makes of a body: a value, a `ValueError`, or a `RecursionError`. -/
inductive Body
  | value (v : Py)
  | invalid
  | tooDeep

/-- `EgressResponse`.  Names of headers are in lower case, and `retryAfter` is the header of this
name as `float` reads it, unless it is refused. -/
structure EgressResponse where
  statusCode : ℕ
  headers : List (String × Text)
  retryAfter : Option ℚ
  body : Body

inductive EgressError
  | configuration
  | destination
  | proxyRefused
  | proxyUnavailable
  | resolution
  | connect
  | tls
  | timeout (requestMayHaveBeenSent : Bool)
  | redirect
  | responseTooLarge
  | protocol (requestMayHaveBeenSent : Bool)

def EgressError.requestMayHaveBeenSent : EgressError → Bool
  | timeout sent => sent
  | protocol sent => sent
  | redirect => true
  | responseTooLarge => true
  | _ => false

/-- What `egress.post` gives. -/
inductive EgressAnswer
  | response (response : EgressResponse)
  | failed (error : EgressError)

def EgressAnswer.sent : EgressAnswer → Bool
  | response _ => true
  | failed error => error.requestMayHaveBeenSent

/-! ## Errors and results -/

/-- `ErrorCategory`. -/
inductive ErrorCategory
  | invalidRequest
  | unsupportedCapability
  | providerAuth
  | rateLimited
  | providerQuotaExhausted
  | providerOverloaded
  | providerError
  | transientPreAcceptance
  | timeout
  | endpointSecurity
  | responseTooLarge
  | malformedResponse
  deriving DecidableEq

def ErrorCategory.value : ErrorCategory → String
  | invalidRequest => "invalid_request"
  | unsupportedCapability => "unsupported_capability"
  | providerAuth => "provider_auth"
  | rateLimited => "rate_limited"
  | providerQuotaExhausted => "provider_quota_exhausted"
  | providerOverloaded => "provider_overloaded"
  | providerError => "provider_error"
  | transientPreAcceptance => "transient_pre_acceptance"
  | timeout => "timeout"
  | endpointSecurity => "endpoint_security"
  | responseTooLarge => "response_too_large"
  | malformedResponse => "malformed_response"

/-- `AdapterError`. -/
structure AdapterError where
  category : ErrorCategory
  possiblyAccepted : Bool
  statusCode : Option ℕ
  providerRequestId : Option Text
  retryAfterSeconds : Option ℚ

/-- What an adapter raises: its error, or the exception of something that it calls. -/
inductive AdapterFault
  | error (error : AdapterError)
  | unicodeEncodeError
  | recursionError

/-- `FinishReason`. -/
inductive FinishReason
  | stop
  | length
  | toolCalls
  | contentFilter
  | other
  deriving DecidableEq

/-- `AdapterResult`, with the texts as Python has them. -/
structure Completion where
  text : Text
  finishReason : FinishReason
  usage : TokenCounts
  model : Option Text
  providerRequestId : Option Text

def AdapterError.unsent (category : ErrorCategory) : AdapterError :=
  ⟨category, false, none, none, none⟩

def errorFromEgress (error : EgressError) : AdapterError where
  category :=
    match error with
    | .destination | .proxyRefused | .redirect | .tls => .endpointSecurity
    | .responseTooLarge => .responseTooLarge
    | .timeout sent => if sent then .timeout else .transientPreAcceptance
    | .connect | .resolution => .transientPreAcceptance
    | .configuration | .proxyUnavailable | .protocol _ => .providerError
  possiblyAccepted := error.requestMayHaveBeenSent
  statusCode := none
  providerRequestId := none
  retryAfterSeconds := none

/-! ## What the adapters share -/

/-- `require_capabilities`: the error that it raises. -/
def requireCapabilities (request : AdapterRequest) (target : ResolvedTarget)
    (protocolCapabilities : List Capability) : Option AdapterError :=
  let needed : List Capability :=
    [.textInput, .textOutput] ++ (if request.system.isSome then [.systemInstructions] else []) ++
      (if request.temperature.isSome then [.temperature] else []) ++
      (if request.stop.isEmpty then [] else [.stopSequences])
  if !needed.all fun c => protocolCapabilities.contains c && target.capabilities.contains c then
    some (.unsent .unsupportedCapability)
  else if request.maxOutputTokens ≤ 0 || request.messages.isEmpty then
    some (.unsent .invalidRequest)
  else none

def EgressResponse.header (response : EgressResponse) (name : String) : Option Text :=
  (response.headers.find? fun header => header.1 = name).map Prod.snd

def requestId (response : EgressResponse) (header : String) : Option Text :=
  (response.header header).filter fun value => value.length ≤ 255

def errorForStatus (response : EgressResponse) (requestIdHeader : String)
    (notProcessedStatuses : List ℕ) : AdapterError :=
  let status := response.statusCode
  let rid := requestId response requestIdHeader
  if status = 401 ∨ status = 403 then ⟨.providerAuth, false, some status, rid, none⟩
  else if status = 429 then ⟨.rateLimited, false, some status, rid, response.retryAfter⟩
  else if status ∈ notProcessedStatuses then
    ⟨.providerOverloaded, false, some status, rid, response.retryAfter⟩
  else if 400 ≤ status ∧ status < 500 then ⟨.invalidRequest, false, some status, rid, none⟩
  else ⟨.providerError, true, some status, rid, none⟩

/-- `malformed`, with the request id that it carries. -/
def malformed (response : EgressResponse) (rid : Option Text) : AdapterFault :=
  .error ⟨.malformedResponse, true, some response.statusCode, rid, none⟩

/-- `parse_json_object`: the entries of the object. -/
def parseJsonObject (response : EgressResponse) (requestIdHeader : String) :
    Except AdapterFault (List (Text × Py)) :=
  match response.body with
  | .value (.dict entries) => .ok entries
  | .tooDeep => .error .recursionError
  | _ => .error (malformed response (requestId response requestIdHeader))

/-- `get` of a dictionary. -/
def get (entries : List (Text × Py)) (key : String) : Option Py :=
  (entries.find? fun entry => entry.1 = PyJson.text key).map Prod.snd

/-- The text of a value that is a `str`. -/
def asStr : Option Py → Option Text
  | some (.leaf (.str t)) => some t
  | _ => none

def optionalCount (container : Option Py) (key : String) : Option ℤ :=
  match container with
  | some (.dict entries) =>
    match get entries key with
    | some (.leaf (.int n)) => if n < 0 then none else some n
    | _ => none
  | _ => none

/-- The finish reason of a table, or `other`. -/
def finishReason (table : List (String × FinishReason)) (raw : Option Py) : FinishReason :=
  match asStr raw with
  | some t => ((table.find? fun row => PyJson.text row.1 = t).map Prod.snd).getD .other
  | none => .other

/-- What the adapters do with a response: an error for its status, or the completion of its body; a
body without one is malformed. -/
def readAnswer (response : EgressResponse) (requestIdHeader : String)
    (notProcessedStatuses : List ℕ) (rid : List (Text × Py) → Option Text)
    (completion : List (Text × Py) → Option Completion) :
    Except AdapterFault Completion :=
  if ¬(200 ≤ response.statusCode ∧ response.statusCode < 300) then
    .error (.error (errorForStatus response requestIdHeader notProcessedStatuses))
  else
    match parseJsonObject response requestIdHeader with
    | .error fault => .error fault
    | .ok body =>
      match completion body with
      | some result => .ok result
      | none => .error (malformed response (rid body))

/-! ## Anthropic Messages -/

/-- The pieces of the content blocks; `none` if a block is malformed. -/
def anthropicPieces : List Py → Option (List Text)
  | [] => some []
  | .dict block :: rest =>
    if asStr (get block "type") = some (PyJson.text "text") then
      match asStr (get block "text") with
      | some t => (anthropicPieces rest).map fun pieces => t :: pieces
      | none => none
    else anthropicPieces rest
  | _ :: _ => none

def anthropicCompletion (rid : Option Text) (body : List (Text × Py)) : Option Completion :=
  match get body "content" with
  | some (.list content) =>
    let usage := get body "usage"
    (anthropicPieces content).map fun pieces =>
      { text := pieces.flatten
        finishReason := finishReason [("end_turn", .stop), ("stop_sequence", .stop),
          ("max_tokens", .length), ("tool_use", .toolCalls), ("refusal", .contentFilter)]
          (get body "stop_reason")
        usage := ⟨optionalCount usage "input_tokens", optionalCount usage "output_tokens",
          optionalCount usage "cache_read_input_tokens",
          optionalCount usage "cache_creation_input_tokens"⟩
        model := asStr (get body "model")
        providerRequestId := rid }
  | _ => none

/-- The answer of `AnthropicMessagesAdapter.complete` to a response. -/
def anthropicAnswer (response : EgressResponse) : Except AdapterFault Completion :=
  let rid := requestId response "request-id"
  readAnswer response "request-id" [529] (fun _ => rid) (anthropicCompletion rid)

/-! ## OpenAI Chat Completions -/

def isInsufficientQuota (response : EgressResponse) : Bool :=
  match response.body with
  | .value (.dict entries) =>
    match get entries "error" with
    | some (.dict error) => asStr (get error "code") = some (PyJson.text "insufficient_quota")
    | _ => false
  | _ => false

def openAiText (message : List (Text × Py)) : Option Text :=
  match get message "content" with
  | none => some []
  | some (.leaf .none) => some []
  | some (.leaf (.str t)) => some t
  | _ => none

def openAiCompletion (rid : Option Text) (body : List (Text × Py)) : Option Completion :=
  match get body "choices" with
  | some (.list (.dict first :: _)) =>
    match get first "message" with
    | some (.dict message) =>
      let usage := get body "usage"
      let details := match usage with
        | some (.dict entries) => get entries "prompt_tokens_details"
        | _ => none
      (openAiText message).map fun content =>
        { text := content
          finishReason := finishReason [("stop", .stop), ("length", .length),
            ("tool_calls", .toolCalls), ("function_call", .toolCalls),
            ("content_filter", .contentFilter)] (get first "finish_reason")
          usage := ⟨optionalCount usage "prompt_tokens", optionalCount usage "completion_tokens",
            optionalCount details "cached_tokens", none⟩
          model := asStr (get body "model")
          providerRequestId := rid }
    | _ => none
  | _ => none

/-- The answer of `OpenAICompatibleAdapter.complete` to a response. -/
def openAiAnswer (response : EgressResponse) : Except AdapterFault Completion :=
  let rid := requestId response "x-request-id"
  if response.statusCode = 429 ∧ isInsufficientQuota response then
    .error (.error ⟨.providerQuotaExhausted, false, some 429, rid, none⟩)
  else readAnswer response "x-request-id" [] (fun _ => rid) (openAiCompletion rid)

/-! ## Gemini generateContent -/

/-- The request id: of the header, or else `responseId` of the body. -/
def geminiRequestId (response : EgressResponse) (body : List (Text × Py)) : Option Text :=
  match requestId response "x-goog-request-id" with
  | some (c :: t) => some (c :: t)
  | _ => (asStr (get body "responseId")).filter fun t => 0 < t.length ∧ t.length ≤ 255

/-- The output tokens: those of the candidates and of the thoughts, as far as they are reported. -/
def geminiOutputTokens (usage : Option Py) : Option ℤ :=
  match optionalCount usage "candidatesTokenCount", optionalCount usage "thoughtsTokenCount" with
  | none, none => none
  | candidates, thoughts => some (candidates.getD 0 + thoughts.getD 0)

/-- The texts of the parts that are no thoughts; `none` if a part is malformed. -/
def geminiTexts : List Py → Option (List Text)
  | [] => some []
  | .dict part :: rest =>
    match asStr (get part "text") with
    | some t =>
      match get part "thought" with
      | some (.leaf (.bool true)) => geminiTexts rest
      | _ => (geminiTexts rest).map fun texts => t :: texts
    | none => none
  | _ :: _ => none

def geminiContent (first : List (Text × Py)) : Option (List Text) :=
  match get first "content" with
  | none => some []
  | some (.leaf .none) => some []
  | some (.dict content) =>
    match get content "parts" with
    | none => some []
    | some (.list parts) => geminiTexts parts
    | _ => none
  | _ => none

/-- `promptFeedback` gives a reason for which the prompt was blocked. -/
def geminiBlocked (body : List (Text × Py)) : Bool :=
  match get body "promptFeedback" with
  | some (.dict feedback) => (asStr (get feedback "blockReason")).isSome
  | _ => false

/-- The completion of a body of the `generateContent` method. -/
def geminiCompletion (rid : Option Text) (body : List (Text × Py)) : Option Completion :=
  let usage := get body "usageMetadata"
  let completion (text : Text) (finish : FinishReason) : Completion :=
    ⟨text, finish, ⟨optionalCount usage "promptTokenCount", geminiOutputTokens usage,
      optionalCount usage "cachedContentTokenCount", none⟩, asStr (get body "modelVersion"), rid⟩
  match get body "candidates" with
  | none | some (.leaf .none) | some (.list []) =>
    if geminiBlocked body then some (completion [] .contentFilter) else none
  | some (.list (.dict first :: _)) =>
    (geminiContent first).map fun texts =>
      completion texts.flatten
        (finishReason [("STOP", .stop), ("MAX_TOKENS", .length), ("SAFETY", .contentFilter),
          ("RECITATION", .contentFilter), ("BLOCKLIST", .contentFilter),
          ("PROHIBITED_CONTENT", .contentFilter), ("SPII", .contentFilter),
          ("IMAGE_SAFETY", .contentFilter)] (get first "finishReason"))
  | _ => none

/-- The answer of `GeminiGenerateContentAdapter.complete` to a response. -/
def geminiAnswer (response : EgressResponse) : Except AdapterFault Completion :=
  readAnswer response "x-goog-request-id" [503] (geminiRequestId response) fun body =>
    geminiCompletion (geminiRequestId response body) body

/-- `_MODEL_ID` matches, and there is no `..`. -/
def isModelId (modelId : String) : Bool :=
  let chars := modelId.toList
  let isAlnum (c : Char) : Bool := c.isAlphanum
  match chars with
  | [] => false
  | c :: rest => isAlnum c && rest.length ≤ 127 &&
      (rest.all fun c => isAlnum c || c = '.' || c = '_' || c = '-') &&
      !(chars.zip rest).any fun pair => pair.1 = '.' && pair.2 = '.'

/-! ## The adapters -/

inductive Adapter
  | openAi
  | anthropic
  | gemini
  deriving DecidableEq

namespace Adapter

/-- `protocol_capabilities`; the same for the three. -/
def protocolCapabilities : Adapter → List Capability :=
  fun _ => [.textInput, .textOutput, .systemInstructions, .temperature, .stopSequences]

def notProcessed : Adapter → List ℕ
  | openAi => []
  | anthropic => [529]
  | gemini => [503]

def refusal (adapter : Adapter) (request : AdapterRequest) (target : ResolvedTarget) :
    Option AdapterError :=
  match requireCapabilities request target adapter.protocolCapabilities with
  | some error => some error
  | none =>
    if adapter = gemini ∧ ¬isModelId target.modelId then some (.unsent .invalidRequest) else none

def sends (adapter : Adapter) (request : AdapterRequest) (target : ResolvedTarget) : Bool :=
  (adapter.refusal request target).isNone && !request.texts.any hasSurrogate

def answer : Adapter → EgressResponse → Except AdapterFault Completion
  | openAi => openAiAnswer
  | anthropic => anthropicAnswer
  | gemini => geminiAnswer

/-- `complete`, with what the egress client gives. -/
def complete (adapter : Adapter) (request : AdapterRequest) (target : ResolvedTarget)
    (egress : EgressAnswer) : Except AdapterFault Completion :=
  match adapter.refusal request target with
  | some error => .error (.error error)
  | none =>
    if request.texts.any hasSurrogate then .error .unicodeEncodeError
    else
      match egress with
      | .failed error => .error (.error (errorFromEgress error))
      | .response response => adapter.answer response

end Adapter

/-! ## What an error says -/

variable {adapter : Adapter} {request : AdapterRequest} {target : ResolvedTarget}
  {response : EgressResponse} {egress : EgressAnswer} {error : AdapterError} {rid : Option Text}
  {result : Completion}

def IsRefusalStatus (adapter : Adapter) (status : ℕ) : Prop :=
  400 ≤ status ∧ status < 500 ∨ status ∈ adapter.notProcessed

variable {header : String} {statuses : List ℕ}

lemma errorForStatus_notAccepted
    (h : (errorForStatus response header statuses).possiblyAccepted = false) :
    400 ≤ response.statusCode ∧ response.statusCode < 500 ∨ response.statusCode ∈ statuses := by
  unfold errorForStatus at h
  dsimp only at h
  split_ifs at h with h₁ h₂ h₃ h₄
  · left
    omega
  · left
    omega
  · exact .inr h₃
  · exact .inl h₄

variable {ridOf : List (Text × Py) → Option Text}
   {completion : List (Text × Py) → Option Completion}

lemma readAnswer_notAccepted
    (h : readAnswer response header statuses ridOf completion = .error (.error error))
    (hno : error.possiblyAccepted = false) :
    400 ≤ response.statusCode ∧ response.statusCode < 500 ∨ response.statusCode ∈ statuses := by
  have hmalformed : ∀ rid, malformed response rid ≠ .error error := by
    rintro rid heq
    obtain rfl : _ = error := by simpa [malformed] using heq
    simp at hno
  unfold readAnswer at h
  split at h
  · obtain rfl : _ = error := by simpa using h
    exact errorForStatus_notAccepted hno
  · split at h
    · rename_i fault hparse
      obtain rfl : fault = .error error := by simpa using h
      unfold parseJsonObject at hparse
      split at hparse
      · simp at hparse
      · simp at hparse
      · exact absurd (by simpa using hparse) (hmalformed _)
    · split at h
      · simp at h
      · exact absurd (by simpa using h) (hmalformed _)

/-- An adapter's error for a request that was sent, which is not possibly accepted, is for a
response whose status says so. -/
theorem complete_notAccepted (hsends : adapter.sends request target = true)
    (hsent : egress.sent = true)
    (h : adapter.complete request target egress = .error (.error error))
    (hno : error.possiblyAccepted = false) :
    ∃ response, egress = .response response ∧ IsRefusalStatus adapter response.statusCode := by
  obtain ⟨hrefusal, htexts⟩ : adapter.refusal request target = none ∧
      request.texts.any hasSurrogate = false := by
    simpa only [Adapter.sends, Bool.and_eq_true, Option.isNone_iff_eq_none,
      Bool.not_eq_true'] using hsends
  simp only [Adapter.complete, hrefusal, htexts, Bool.false_eq_true, if_false] at h
  cases egress with
  | failed failure =>
    obtain rfl : errorFromEgress failure = error := by simpa using h
    have hsent' : failure.requestMayHaveBeenSent = true := hsent
    exact absurd (hno.symm.trans hsent') (by decide)
  | response response =>
    refine ⟨response, rfl, ?_⟩
    cases adapter with
    | anthropic => exact readAnswer_notAccepted h hno
    | gemini => exact readAnswer_notAccepted h hno
    | openAi =>
      simp only [Adapter.answer, openAiAnswer] at h
      split at h
      · rename_i hquota
        exact .inl ⟨by omega, by omega⟩
      · exact readAnswer_notAccepted h hno

/-! ## What a result reports -/

def TokenCounts.Nonneg (tokens : TokenCounts) : Prop :=
  (∀ n ∈ tokens.inputTokens, 0 ≤ n) ∧ ∀ n ∈ tokens.outputTokens, 0 ≤ n

lemma optionalCount_nonneg {container : Option Py} {key : String} :
    ∀ n ∈ optionalCount container key, 0 ≤ n := by
  intro n hn
  unfold optionalCount at hn
  split at hn
  · split at hn
    · split_ifs at hn
      · simp at hn
      · obtain rfl := Option.some.inj hn
        omega
    · simp at hn
  · simp at hn

lemma geminiOutputTokens_nonneg {usage : Option Py} : ∀ n ∈ geminiOutputTokens usage, 0 ≤ n := by
  intro n hn
  have hcount : ∀ key, 0 ≤ (optionalCount usage key).getD 0 := by
    intro key
    cases hkey : optionalCount usage key with
    | none => simp
    | some m => exact optionalCount_nonneg m hkey
  unfold geminiOutputTokens at hn
  split at hn
  · simp at hn
  · obtain rfl := Option.some.inj hn
    exact Int.add_nonneg (hcount _) (hcount _)

lemma readAnswer_eq_ok (h : readAnswer response header statuses ridOf completion = .ok result) :
    ∃ body, completion body = some result := by
  unfold readAnswer at h
  split at h
  · simp at h
  · split at h
    · simp at h
    · rename_i body hparse
      split at h
      · rename_i other hcompletion
        obtain rfl : other = result := by simpa using h
        exact ⟨body, hcompletion⟩
      · simp at h

variable {body : List (Text × Py)}

lemma anthropicCompletion_nonneg (h : anthropicCompletion rid body = some result) :
    result.usage.Nonneg := by
  unfold anthropicCompletion at h
  split at h
  · obtain ⟨pieces, -, rfl⟩ := Option.map_eq_some_iff.mp h
    exact ⟨optionalCount_nonneg, optionalCount_nonneg⟩
  · simp at h

lemma openAiCompletion_nonneg (h : openAiCompletion rid body = some result) :
    result.usage.Nonneg := by
  unfold openAiCompletion at h
  split at h
  · split at h
    · obtain ⟨content, -, rfl⟩ := Option.map_eq_some_iff.mp h
      exact ⟨optionalCount_nonneg, optionalCount_nonneg⟩
    · simp at h
  · simp at h

lemma geminiCompletion_nonneg (h : geminiCompletion rid body = some result) :
    result.usage.Nonneg := by
  unfold geminiCompletion at h
  dsimp only at h
  split at h
  iterate 3
    · split_ifs at h
      obtain rfl := Option.some.inj h
      exact ⟨optionalCount_nonneg, geminiOutputTokens_nonneg⟩
  · obtain ⟨texts, -, rfl⟩ := Option.map_eq_some_iff.mp h
    exact ⟨optionalCount_nonneg, geminiOutputTokens_nonneg⟩
  · simp at h

theorem counts_nonneg_of_complete (h : adapter.complete request target egress = .ok result) :
    result.usage.Nonneg := by
  unfold Adapter.complete at h
  split at h
  · simp at h
  split_ifs at h
  split at h
  · simp at h
  · rename_i response
    cases adapter with
    | anthropic =>
      obtain ⟨body, hbody⟩ := readAnswer_eq_ok h
      exact anthropicCompletion_nonneg hbody
    | gemini =>
      obtain ⟨body, hbody⟩ := readAnswer_eq_ok h
      exact geminiCompletion_nonneg hbody
    | openAi =>
      simp only [Adapter.answer, openAiAnswer] at h
      split_ifs at h
      obtain ⟨body, hbody⟩ := readAnswer_eq_ok h
      exact openAiCompletion_nonneg hbody

end SaasOs.Inference
