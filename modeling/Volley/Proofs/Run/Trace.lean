import Volley.Network.Basic
import Volley.Proofs.Count
import Volley.Proofs.Run.Shared
import Volley.Proofs.Text.Utf8
import Volley.Run.Trace

/-!
# Traces and sizes

The sizes of requests and responses are counted when they are sent and received, and a trace is
written much later. They count the same bytes: a trace has those of each request and response, and
six more for every exchange, the line ends after the two bodies (`Exchange.utf8ByteSize_trace`). For
that, a body has to be shown as it is, so it has to be a text, and a response has to have the size
that was counted when it was received. The second holds of all that an execution leaves in a file
(`size_of_mem_exchanges`), since only what was received over the transport is recorded.
-/

namespace Volley

open Text.Utf8 (encode)

/-! ## The bytes of a trace -/

/-- The bytes of texts that are put together. -/
theorem utf8ByteSize_join (texts : List String) :
    (String.join texts).utf8ByteSize = total (texts.map String.utf8ByteSize) := by
  induction texts with
  | nil => rfl
  | cons text later ih => rw [String.join_cons, String.utf8ByteSize_append, ih]; rfl

/-- Header lines have the bytes that are counted for them. -/
theorem utf8ByteSize_headerLines (headers : List Header) :
    (headerLines headers).utf8ByteSize = headersSize headers := by
  have hline (header : Header) :
      (header.1 ++ ": " ++ header.2 ++ lineEnd).utf8ByteSize = headerSize header := by
    simp only [String.utf8ByteSize_append]
    rfl
  rw [headerLines, headersSize, utf8ByteSize_join, List.map_map]
  exact congrArg total (List.map_congr_left fun header _ => hline header)

/-- A body that is text is shown as it is. -/
theorem Response.utf8ByteSize_bodyText {r : Response} {text : String}
    (h : r.body = encode text.toList) : r.bodyText.utf8ByteSize = r.body.length := by
  rw [bodyText, Text.Utf8.decodeLossy_of_decode? (Text.Utf8.decode?_eq_some_iff.2 h),
    String.ofList_toList, h, Text.Utf8.length_encode]

/-- An exchange is shown with the bytes of its request and response, and the line ends after their
bodies. -/
theorem Exchange.utf8ByteSize_trace {e : Exchange} {text : String}
    (hbody : e.response.body = encode text.toList)
    (hsize : e.response.size =
      responseSize e.response.status e.response.headers e.response.body) :
    e.trace.utf8ByteSize = e.request.size + e.response.size + 6 := by
  have hlineEnd : lineEnd.utf8ByteSize = 2 := rfl
  have hspace : " ".utf8ByteSize = 1 := rfl
  have hversion : " HTTP/1.1\r\n".utf8ByteSize = " HTTP/1.1".utf8ByteSize + 2 := rfl
  rw [hsize, Request.size, responseSize]
  -- `delta`, since the equation of such a long text takes seconds to derive.
  delta trace
  simp only [String.utf8ByteSize_append, utf8ByteSize_headerLines,
    Response.utf8ByteSize_bodyText hbody, hlineEnd, hspace, hversion]
  omega

/-- A file is shown with the bytes of what its cases have sent and received. -/
theorem RequestFile.utf8ByteSize_trace {file : RequestFile}
    (hbodies : ∀ e ∈ file.exchanges, ∃ text : String, e.response.body = encode text.toList)
    (hsizes : ∀ e ∈ file.exchanges, e.response.size =
      responseSize e.response.status e.response.headers e.response.body) :
    file.trace.utf8ByteSize =
      total (file.exchanges.map fun e => e.request.size + e.response.size + 6) := by
  rw [trace, utf8ByteSize_join, List.map_map]
  refine congrArg total (List.map_congr_left fun e he => ?_)
  obtain ⟨text, htext⟩ := hbodies e he
  rw [Function.comp_apply, Exchange.utf8ByteSize_trace htext (hsizes e he)]

/-! ## What an execution leaves in a file -/

/-- A response that comes back over a transport has the size that is counted for it. -/
theorem Transport.size_of_send {σ : Type} {transport : Transport σ} {request : Request}
    {network : σ} {response : Response}
    (h : (transport.send request network).1 = .ok response) :
    response.size = responseSize response.status response.headers response.body := by
  unfold send at h
  cases hanswer : (transport request network).1 with
  | error fault => simp [hanswer, Except.map] at h
  | ok reply =>
    obtain rfl : reply.response = response := by simpa [hanswer, Except.map] using h
    rfl

variable {σ : Type}

/-- What came back in an attempt is what the network answers to its request. -/
theorem Run.exists_answer_eq {conditions : Conditions σ} {run : Run σ} {places : List Nat}
    {a : Attempt} (h : a ∈ attempts conditions run places) :
    ∃ network, a.answer = (conditions.send a.request network).1 := by
  induction places generalizing run with
  | nil => simp [attempts] at h
  | cons index rest ih =>
    rw [attempts, List.mem_append, Option.mem_toList] at h
    rcases h with h | h
    · obtain ⟨-, -, c, -, rfl⟩ := exists_of_attempt? h
      exact ⟨run.network, rfl⟩
    · exact ih h

/-- The responses that an execution leaves in a file have the sizes that are counted for them. -/
theorem RequestFile.size_of_mem_exchanges {transport : Transport σ} {conditions : Conditions σ}
    (hsend : conditions.send = transport.send) {file : RequestFile} {network : σ} {e : Exchange}
    (h : e ∈ (file.execute conditions network).file.exchanges) :
    e.response.size = responseSize e.response.status e.response.headers e.response.body := by
  -- What the file holds is of an attempt, and its response has come over the transport.
  rw [exchanges, filterMap_exchange_execute, List.mem_filterMap] at h
  obtain ⟨a, ha, hexchange⟩ := h
  obtain ⟨network, hanswer⟩ := Run.exists_answer_eq ha
  rw [hsend] at hanswer
  unfold Attempt.exchange? at hexchange
  split at hexchange
  · rename_i response hok
    obtain rfl : ⟨a.request, response⟩ = e := Option.some.inj hexchange
    exact Transport.size_of_send (hanswer.symm.trans hok)
  · nomatch hexchange

/-- The trace of a file that was executed has the bytes that were counted for the exchanges of its
cases, and six more for each of them, if the bodies that were received are texts. Whether the
execution succeeded does not matter, and cases that were not executed add nothing. -/
theorem RequestFile.utf8ByteSize_trace_execute (transport : Transport σ)
    (conditions : Conditions σ) (hsend : conditions.send = transport.send) (file : RequestFile)
    (network : σ) (success : Bool)
    (hbodies : ∀ e ∈ (file.execute conditions network).file.exchanges,
      ∃ text : String, e.response.body = encode text.toList) :
    let reached := (file.execute conditions network).file
    reached.trace.utf8ByteSize =
      total (reached.cases.map fun c =>
        c.exchange.elim 0 fun e => e.request.size + e.response.size + 6) ∧
    reached.trace.utf8ByteSize =
      (Stat.ofRun reached success).sent + (Stat.ofRun reached success).received +
        6 * reached.cases.countP fun c => c.exchange.isSome := by
  intro reached
  have htrace := utf8ByteSize_trace hbodies fun e => size_of_mem_exchanges hsend
  constructor
  · rw [htrace]
    exact (total_map_exchange (fun c => c.exchange.elim 0 _) _ (fun c h => by rw [h]; rfl)
      (fun c e h => by rw [h]; rfl) reached.cases).symm
  · have hcount : (reached.cases.filterMap Case.exchange).length =
        reached.cases.countP fun c => c.exchange.isSome := List.length_filterMap_eq_countP
    rw [htrace, Stat.sent_ofRun, Stat.received_ofRun, ← hcount, ← total_map_const, total_map_add,
      total_map_add]
    rfl

/-- A file whose second case has no method and whose third gets another status than the first. -/
def accentFile : RequestFile where
  bindings := .ofPairs [("é", "ü")]
  cases := [
    { method := "PUT", url := "http://h/\x7b\x7bé\x7d\x7d", headers := [("ö", "ä")], body := "€" },
    { url := "http://h/" }, { method := "GET", url := "http://h/" },
    { method := "GET", url := "http://h/" }]

/-- A transport that sends back what it is sent, with a status that goes up. -/
def mirror : Transport Nat := fun request count =>
  (.ok { status := count, headers := request.headers, body := encode request.body.toList },
    count + 1)

/-- The circumstances of a run of `accentFile`. -/
def accentConditions : Conditions Nat where
  builtins := fun _ _ _ => none
  expected := 200
  send := mirror.send

/-- A failed execution of `accentFile` is shown with what was sent and received in two of its
cases. -/
theorem RequestFile.utf8ByteSize_trace_execute_accentFile :
    accentConditions.send = mirror.send ∧
    (accentFile.execute accentConditions 200).failure.isSome = true ∧
    let reached := (accentFile.execute accentConditions 200).file
    (∀ e ∈ reached.exchanges, ∃ text : String, e.response.body = encode text.toList) ∧
    reached.cases.map (fun c => c.exchange.isSome) = [true, false, true, false] ∧
    reached.trace.utf8ByteSize =
      total (reached.cases.map fun c =>
        c.exchange.elim 0 fun e => e.request.size + e.response.size + 6) ∧
    reached.trace.utf8ByteSize =
      (Stat.ofRun reached false).sent + (Stat.ofRun reached false).received +
        6 * reached.cases.countP fun c => c.exchange.isSome := by
  refine ⟨rfl, by decide +kernel, ?_⟩
  intro reached
  have hbodies : ∀ e ∈ reached.exchanges,
      ∃ text : String, e.response.body = encode text.toList := by
    have htexts : ∀ e ∈ reached.exchanges, e.response.body = encode "€".toList ∨
        e.response.body = encode "".toList := by decide +kernel
    intro e he
    rcases htexts e he with h | h
    · exact ⟨_, h⟩
    · exact ⟨_, h⟩
  exact ⟨hbodies, by decide +kernel, utf8ByteSize_trace_execute mirror accentConditions rfl
    accentFile 200 false hbodies⟩

end Volley
