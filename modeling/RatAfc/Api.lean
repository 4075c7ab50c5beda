import RatAfc.Js.Value

/-!
# The gateway (`spectrumInquiryRequest` of `RatAfcApi.ts`)

`spectrumInquiryRequest(request)` posts a batch of exactly one inquiry, and turns whatever comes
back into a `RatResponse`: `success(first response)` on status 200 when that response's
`responseCode == 0`, `error(...)` otherwise.  The `.then` callback reads the body field by field
and can throw; the final `.catch` turns every throw into the generic error.

The network is a function `fetch` from the posted batch to how the exchange ends (`Exchange`):
`fetch` rejects, or a `Response` arrives whose `json()` is a value or a `SyntaxError`.

* `spectrumInquiryRequest_verdict`   the promise always fulfils, with `verdict`: the case table
  of the four outcomes (transport error, generic error, domain error, success);
* `spectrumInquiryRequest_success_not_only_zero`   `== 0` also lets non-numbers through.
-/

namespace RatAfc

/-- the `Response` that `fetch` resolves to; `json` is what `resp.json()` gives -/
structure Response where
  status : Nat
  statusText : String
  json : Except Fault JVal

/-- how the exchange with the AFC endpoint ends -/
inductive Exchange where
  | rejected (e : Fault)
  | answered (resp : Response)

/-- the body of an error: a JSON value, a raw `Response`, or a caught exception -/
inductive Body where
  | json (v : JVal)
  | response (r : Response)
  | fault (e : Fault)

/-- Modelled from the spec: `RatResponse<T>` with its constructors `success` and `error` of
`Lib/RatApiTypes` (not part of the sources), `Success(result)` or
`Error(description, code, body)`. -/
inductive RatResponse (α : Type) where
  | success (result : α)
  | error (description : JVal) (errorCode : JVal) (body : Body)

structure InquiryBatch (ρ : Type) where
  version : String
  availableSpectrumInquiryRequests : List ρ

/-- `{ version: "1.1", availableSpectrumInquiryRequests: [request] }` -/
def inquiryBatch {ρ : Type} (request : ρ) : InquiryBatch ρ := ⟨"1.1", [request]⟩

def firstResponse (data : JVal) : Except Fault JVal := do
  (← data.get "availableSpectrumInquiryResponses").idx 0

def responseCode (response : JVal) : Except Fault JVal := do
  (← response.get "response").get "responseCode"

def shortDescription (response : JVal) : Except Fault JVal := do
  (← response.get "response").get "shortDescription"

section
variable (K : Coerce)

/-- the async callback of `.then(async resp => ...)` -/
def onResponse (resp : Response) : Except Fault (RatResponse JVal) := do
  if resp.status = 200 then
    let data ← resp.json
    let response ← firstResponse data
    if ← (← responseCode response).looseEqNum K 0 then
      return .success (← firstResponse data)
    else
      return .error (← shortDescription response) (← responseCode response) (.json response)
  else
    return .error (.text resp.statusText) (.num resp.status) (.response resp)

def genericError (e : Fault) : RatResponse JVal :=
  .error (.text "encountered an error when running request") .undefined (.fault e)

/-- `spectrumInquiryRequest(request)`: how its promise settles -/
def spectrumInquiryRequest {ρ : Type} (fetch : InquiryBatch ρ → Exchange) (request : ρ) :
    Except Fault (RatResponse JVal) :=
  let fetched : Except Fault Response :=
    match fetch (inquiryBatch request) with
    | .rejected e => .error e
    | .answered resp => .ok resp
  tryCatch (fetched >>= onResponse K) fun e => .ok (genericError e)

/-- the four outcomes, case by case: the transport error on a status other than 200, the
generic error when the body cannot be read down to `responseCode` or `== 0` throws, success
when that code is `== 0`, the domain error otherwise -/
def verdict : Exchange → RatResponse JVal
  | .rejected e => genericError e
  | .answered resp =>
    if resp.status = 200 then
      match resp.json >>= firstResponse with
      | .error e => genericError e
      | .ok response =>
        match responseCode response with
        | .error e => genericError e
        | .ok code =>
          match code.looseEqNum K 0 with
          | .error e => genericError e
          | .ok true => .success response
          | .ok false =>
            match shortDescription response with
            | .ok d => .error d code (.json response)
            | .error e => genericError e
    else .error (.text resp.statusText) (.num resp.status) (.response resp)

theorem shortDescription_ok {response code : JVal} (h : responseCode response = .ok code) :
    ∃ d, shortDescription response = .ok d := by
  unfold responseCode at h
  unfold shortDescription
  cases hr : response.get "response" with
  | error e => simp [hr] at h
  | ok x =>
    simp only [hr, except_ok_bind] at h ⊢
    cases x <;> simp_all [JVal.get]

/-- **The gateway never rejects.**  For every request and every way the exchange ends, the
promise fulfils, with the verdict of the case table. -/
theorem spectrumInquiryRequest_verdict {ρ : Type} (fetch : InquiryBatch ρ → Exchange)
    (request : ρ) :
    spectrumInquiryRequest K fetch request = .ok (verdict K (fetch (inquiryBatch request))) := by
  unfold spectrumInquiryRequest
  cases fetch (inquiryBatch request) with
  | rejected e => rfl
  | answered resp =>
    simp only [except_ok_bind, verdict, onResponse]
    by_cases hs : resp.status = 200
    · simp only [hs, if_true]
      cases resp.json with
      | error e => rfl
      | ok data =>
        simp only [except_ok_bind]
        cases hf : firstResponse data with
        | error e => rfl
        | ok response =>
          simp only [except_ok_bind]
          cases hc : responseCode response with
          | error e => rfl
          | ok code =>
            simp only [except_ok_bind]
            cases hl : code.looseEqNum K 0 with
            | error e => rfl
            | ok b =>
              obtain ⟨d, hd⟩ := shortDescription_ok hc
              cases b
              · simp [hd, hc]; rfl
              · simp [hf]; rfl
    · simp only [hs, if_false]; rfl

end

/-- the body `{ availableSpectrumInquiryResponses: [r] }` -/
def envelope (r : JVal) : JVal := .obj [("availableSpectrumInquiryResponses", .arr [r])]

/-- status 200 with the body `envelope r` -/
def answered200 (r : JVal) : Exchange := .answered ⟨200, "OK", .ok (envelope r)⟩

def okResponse : JVal := .obj [("response", .obj [("responseCode", .num 0)])]

def falseCodeResponse : JVal :=
  .obj [("response", .obj [("responseCode", .bool false)])]

/-- `Success(r)` does not require `r.response.responseCode` to be the number `0`: `false == 0` -/
theorem spectrumInquiryRequest_success_not_only_zero :
    ¬ ∀ (K : Coerce) (fetch : InquiryBatch Unit → Exchange) (r : JVal),
      spectrumInquiryRequest K fetch () = .ok (.success r) → responseCode r = .ok (.num 0) := by
  intro h
  have := h default (fun _ => answered200 falseCodeResponse) falseCodeResponse rfl
  simp [responseCode, falseCodeResponse, JVal.get] at this

end RatAfc
