import Liteio.Library.Runs
import Liteio.Library.Strconv
import Mathlib.Data.List.Forall2

/-! # Calls of the JSON-RPC client

`Client.Call` of pkg/spdk/jsonrpc, and how a request made through it is reported.
A connection is what its reads return one after another until it is closed. Each
call has a decoder of its own, so what that decoder has read beyond its value is
lost, and what it has not read is met by the next call. The error of the decoder
is dropped and the id of the answer is not looked at.
-/

namespace Liteio.Spdk.JsonRpc

open Strconv

def jsonRPCVersion : String := "2.0"

structure RPCRequest where
  rpcVersion : String := jsonRPCVersion
  id : ℕ
  method : String
  params : String

structure RPCError where
  code : ℤ := 0
  message : String := ""
  deriving DecidableEq

def RPCError.error (e : RPCError) : String := "Code=" ++ itoa e.code ++ " Msg=" ++ e.message

/-- An answer as its text has it. A missing error decodes to the zero value. -/
structure RPCResponse where
  id : ℕ := 0
  result : String := ""
  error : Option RPCError := none
  deriving DecidableEq

def RPCResponse.errorCode (resp : RPCResponse) : ℤ := (resp.error.getD {}).code

/-- The fields a decoder has filled in, also next to an error. -/
structure Decoded where
  resp : RPCResponse := {}
  err : Option String := none
  deriving DecidableEq

inductive Scan where
  | value (length : ℕ)
  | more
  | invalid (err : String)
  deriving DecidableEq

/-- The package that reads JSON: where the first value of a text ends, which may need the
end of the input, and what a value decodes to. -/
structure Json where
  scan : List Char → Bool → Scan
  unmarshal : List Char → Decoded

abbrev Conn := List (List Char)

def eofError (buf : List Char) : String :=
  if buf.all Char.isWhitespace then "EOF" else "unexpected EOF"

def decode (json : Json) (buf : List Char) : Conn → Decoded × Conn
  | [] =>
    match json.scan buf true with
    | .value length => (json.unmarshal (buf.take length), [])
    | .more => ({ err := some (eofError buf) }, [])
    | .invalid err => ({ err := some err }, [])
  | chunk :: conn =>
    match json.scan buf false with
    | .value length => (json.unmarshal (buf.take length), chunk :: conn)
    | .more => decode json (buf ++ chunk) conn
    | .invalid err => ({ err := some err }, chunk :: conn)

structure Client where
  id : ℕ := 0
  conn : Conn

structure Call where
  method : String
  params : String := ""
  writeError : Option String := none

inductive CallError where
  | write (text : String)
  | rpc (err : RPCError)
  deriving DecidableEq

def CallError.error : CallError → String
  | .write text => text
  | .rpc err => err.error

structure CallResult where
  req : RPCRequest
  result : String := ""
  err : Option CallError := none

def Client.nextId (cli : Client) : ℕ := (cli.id + 1) % 2 ^ 64

def Client.answer (cli : Client) (json : Json) : Decoded := (decode json [] cli.conn).1

def Client.call (json : Json) (cli : Client) (c : Call) : Client × CallResult :=
  let req : RPCRequest := { id := cli.nextId, method := c.method, params := c.params }
  match c.writeError with
  | some text => ({ cli with id := cli.nextId }, { req := req, err := some (.write text) })
  | none =>
    let (decoded, conn) := decode json [] cli.conn
    ({ id := cli.nextId, conn := conn },
      { req := req
        result := decoded.resp.result
        err := if decoded.resp.errorCode ≠ 0 then some (.rpc (decoded.resp.error.getD {})) else none })

def Client.step (json : Json) (cli : Client) (c : Call) : Client := (cli.call json c).1

/-- A request whose caller looks at the error only. -/
def Client.request (json : Json) (method : String) (cli : Client) (params : String)
    (writeError : Option String) : Client × Option String :=
  let (cli, out) := cli.call json { method := method, params := params, writeError := writeError }
  (cli, out.err.map fun err => err.error ++ out.result)

/-- A call that reports no error has decoded an answer to its own request, and one without an error. -/
def RealSuccess (json : Json) (cli : Client) (c : Call) : Prop :=
  (cli.call json c).2.err = none → c.writeError = none ∧ (cli.answer json).err = none ∧
    (cli.answer json).resp.id = (cli.call json c).2.req.id ∧ (cli.answer json).resp.error = none

theorem call_err_eq_none_iff {json : Json} {cli : Client} {c : Call} :
    (cli.call json c).2.err = none ↔ c.writeError = none ∧ (cli.answer json).resp.errorCode = 0 := by
  unfold Client.call Client.answer
  cases c.writeError <;> simp

theorem call_req_id {json : Json} {cli : Client} {c : Call} : (cli.call json c).2.req.id = cli.nextId := by
  unfold Client.call
  cases c.writeError <;> rfl

theorem realSuccess_iff (json : Json) (cli : Client) (c : Call) :
    RealSuccess json cli c ↔ c.writeError ≠ none ∨ (cli.answer json).resp.errorCode ≠ 0 ∨
      (cli.answer json).err = none ∧ (cli.answer json).resp.id = cli.nextId ∧
        (cli.answer json).resp.error = none := by
  rw [RealSuccess, call_err_eq_none_iff, call_req_id]
  constructor
  · intro h
    by_cases hWrite : c.writeError = none
    · by_cases hCode : (cli.answer json).resp.errorCode = 0
      · exact .inr (.inr (h ⟨hWrite, hCode⟩).2)
      · exact .inr (.inl hCode)
    · exact .inl hWrite
  · rintro h ⟨hWrite, hCode⟩
    rcases h with hFailed | hError | hAnswer
    · exact absurd hWrite hFailed
    · exact absurd hCode hError
    · exact ⟨hWrite, hAnswer⟩

/-- With the last of these reads, and not before, the text has a value. What the
read has beyond it is lost with the decoder. -/
def Brings (json : Json) (message : Decoded) (buf : List Char) : Conn → Prop
  | [] => ∃ length, (∀ atEnd, json.scan buf atEnd = .value length) ∧ json.unmarshal (buf.take length) = message
  | chunk :: reads => json.scan buf false = .more ∧ Brings json message (buf ++ chunk) reads

/-- The stream is no JSON any more, or ends, before it has a value. -/
def Breaks (json : Json) (buf : List Char) : Conn → Prop
  | [] => ∀ length, json.scan buf true ≠ .value length
  | chunk :: conn => (∃ err, json.scan buf false = .invalid err) ∨
      json.scan buf false = .more ∧ Breaks json (buf ++ chunk) conn

/-- The messages carry the ids of the requests that were written, one after
another and without an error, or errors with a code. -/
def InTurn (id : ℕ) : List Call → List Decoded → Prop
  | [], _ => True
  | c :: calls, [] => c.writeError ≠ none ∧ InTurn ((id + 1) % 2 ^ 64) calls []
  | c :: calls, message :: messages =>
    if c.writeError ≠ none then InTurn ((id + 1) % 2 ^ 64) calls (message :: messages)
    else
      (message.resp.errorCode ≠ 0 ∨
        message.err = none ∧ message.resp.id = (id + 1) % 2 ^ 64 ∧ message.resp.error = none) ∧
        InTurn ((id + 1) % 2 ^ 64) calls messages

theorem decode_of_brings {json : Json} {message : Decoded} {buf : List Char} {reads : Conn}
    (h : Brings json message buf reads) (later : Conn) : decode json buf (reads ++ later) = (message, later) := by
  induction reads generalizing buf with
  | nil =>
    obtain ⟨length, hScan, rfl⟩ := h
    cases later <;> simp [decode, hScan]
  | cons chunk reads ih =>
    obtain ⟨hMore, hRest⟩ := h
    rw [List.cons_append, decode, hMore]
    exact ih hRest

theorem decode_of_breaks {json : Json} {buf : List Char} {conn : Conn} (h : Breaks json buf conn) :
    (decode json buf conn).1.resp = {} ∧ (decode json buf conn).1.err ≠ none := by
  induction conn generalizing buf with
  | nil =>
    cases hScan : json.scan buf true with
    | value length => exact absurd hScan (h length)
    | more => simp [decode, hScan]
    | invalid err => simp [decode, hScan]
  | cons chunk conn ih =>
    rcases h with ⟨err, hScan⟩ | ⟨hScan, hRest⟩
    · simp [decode, hScan]
    · rw [decode, hScan]
      exact ih hRest

/-- A scanner for values that end by themselves, as objects do. -/
structure SelfDelimiting (json : Json) : Prop where
  empty : json.scan [] false = .more
  atEnd : ∀ buf length, json.scan buf true = .value length ↔ json.scan buf false = .value length

theorem brings_or_breaks {json : Json} (hJson : SelfDelimiting json) (buf : List Char) (conn : Conn) :
    Breaks json buf conn ∨ ∃ message reads later, conn = reads ++ later ∧ Brings json message buf reads := by
  have hValue : ∀ {buf length}, json.scan buf false = .value length →
      Brings json (json.unmarshal (buf.take length)) buf [] := by
    intro buf length hScan
    exact ⟨length, fun atEnd => by cases atEnd; exacts [hScan, (hJson.atEnd _ _).mpr hScan], rfl⟩
  induction conn generalizing buf with
  | nil =>
    by_cases hBreaks : Breaks json buf []
    · exact .inl hBreaks
    · obtain ⟨length, hScan⟩ := not_forall_not.mp hBreaks
      exact .inr ⟨_, [], [], rfl, hValue ((hJson.atEnd _ _).mp hScan)⟩
  | cons chunk conn ih =>
    cases hScan : json.scan buf false with
    | value length => exact .inr ⟨_, [], chunk :: conn, rfl, hValue hScan⟩
    | invalid err => exact .inl (.inl ⟨err, hScan⟩)
    | more =>
      rcases ih (buf ++ chunk) with hBreaks | ⟨message, reads, later, rfl, hReads⟩
      · exact .inl (.inr ⟨hScan, hBreaks⟩)
      · exact .inr ⟨message, chunk :: reads, later, rfl, hScan, hReads⟩

/-- So it is a row of messages, up to where it breaks. -/
theorem exists_messages {json : Json} (hJson : SelfDelimiting json) (conn : Conn) :
    ∃ reads messages rest, conn = reads.flatten ++ rest ∧
      List.Forall₂ (fun reads message => Brings json message [] reads) reads messages ∧ Breaks json [] rest := by
  induction hLength : conn.length using Nat.strong_induction_on generalizing conn with
  | _ n ih =>
    subst hLength
    rcases brings_or_breaks hJson [] conn with hBreaks | ⟨message, first, later, rfl, hFirst⟩
    · exact ⟨[], [], conn, rfl, .nil, hBreaks⟩
    · cases first with
      | nil =>
        obtain ⟨length, hScan, -⟩ := hFirst
        have hNone := hScan false
        rw [hJson.empty] at hNone
        cases hNone
      | cons chunk first =>
        have hShorter : later.length < (chunk :: first ++ later).length := by
          rw [List.length_append, List.length_cons]
          omega
        obtain ⟨reads, messages, rest, rfl, hReads, hRest⟩ := ih later.length hShorter later rfl
        exact ⟨(chunk :: first) :: reads, message :: messages, rest, by simp, .cons hFirst hReads, hRest⟩

theorem step_of_writeError {json : Json} {cli : Client} {c : Call} (h : c.writeError ≠ none) :
    cli.step json c = { cli with id := cli.nextId } := by
  obtain ⟨text, hText⟩ := Option.ne_none_iff_exists'.mp h
  simp [Client.step, Client.call, hText]

theorem step_of_decode {json : Json} {cli : Client} {c : Call} (h : c.writeError = none) :
    cli.step json c = { id := cli.nextId, conn := (decode json [] cli.conn).2 } := by
  simp [Client.step, Client.call, h]

/-- The calls on one connection take the messages of the stream one after another,
whatever they have asked: their successes are real exactly when the messages come
in turn. -/
theorem calls_realSuccess_iff {json : Json} {reads : List Conn} {messages : List Decoded} {rest : Conn}
    (hMessages : List.Forall₂ (fun reads message => Brings json message [] reads) reads messages)
    (hRest : Breaks json [] rest) (id : ℕ) (calls : List Call) :
    Runs.Guarded (Client.step json) (RealSuccess json) { id := id, conn := reads.flatten ++ rest } calls ↔
      InTurn id calls messages := by
  induction calls generalizing id reads messages with
  | nil => exact Iff.rfl
  | cons c calls ih =>
    rw [Runs.Guarded, realSuccess_iff]
    by_cases hWrite : c.writeError = none
    · rw [step_of_decode hWrite]
      cases hMessages with
      | nil =>
        obtain ⟨hZero, hErr⟩ := decode_of_breaks hRest
        have hAnswer : (⟨id, rest⟩ : Client).answer json = (decode json [] rest).1 := rfl
        simp [InTurn, hWrite, hAnswer, hZero, hErr, RPCResponse.errorCode]
      | @cons first message reads messages hFirst hLater =>
        have hDecode := decode_of_brings hFirst (reads.flatten ++ rest)
        rw [← List.append_assoc, ← List.flatten_cons] at hDecode
        have hAnswer : (⟨id, (first :: reads).flatten ++ rest⟩ : Client).answer json = message := by
          simp only [Client.answer, hDecode]
        simp only [InTurn, hDecode, hAnswer, hWrite, Client.nextId, ih hLater, ne_eq, not_true_eq_false,
          false_or, if_false]
    · rw [step_of_writeError hWrite, Client.nextId, ih hMessages, or_iff_left_of_imp fun _ => hWrite,
        and_iff_right hWrite]
      cases hMessages <;> simp [InTurn, hWrite]

/-- On a stream that breaks, as on a closed connection, whatever is asked of SPDK is
reported as done. -/
theorem request_of_breaks {json : Json} {conn : Conn} (h : Breaks json [] conn) (method params : String) (id : ℕ) :
    (Client.request json method { id := id, conn := conn } params none).2 = none := by
  simp [Client.request, Client.call, (decode_of_breaks h).1, RPCResponse.errorCode]

def Json.ofTexts (texts : List (List Char × RPCResponse)) : Json where
  scan buf _ :=
    match texts.find? fun (text, _) => text <+: buf with
    | some (text, _) => .value text.length
    | none =>
      if texts.any fun (text, _) => buf <+: text then .more
      else .invalid "invalid character looking for beginning of value"
  unmarshal value :=
    match texts.find? fun (text, _) => text = value with
    | some (_, resp) => { resp := resp }
    | none => { err := some "unexpected end of JSON input" }

def answerOf (id : String) : List Char :=
  ("\x7b\"jsonrpc\":\"2.0\",\"id\":" ++ id ++ ",\"result\":true\x7d").toList

def twoAnswers : Json := .ofTexts [(answerOf "1", { id := 1, result := "true" }),
  (answerOf "2", { id := 2, result := "true" })]

/-- The first answer comes in two reads, and the connection is closed after the second one. -/
theorem twoAnswers_inTurn : Runs.Guarded (Client.step twoAnswers) (RealSuccess twoAnswers)
    { conn := [(answerOf "1").take 20, (answerOf "1").drop 20, answerOf "2"] }
    [{ method := "bdev_migrate_start" }, { method := "bdev_migrate_cleanup_task" }] := by
  have hFirst : Brings twoAnswers { resp := { id := 1, result := "true" } } []
      [(answerOf "1").take 20, (answerOf "1").drop 20] :=
    ⟨by decide, by decide, (answerOf "1").length, by decide, by decide⟩
  have hSecond : Brings twoAnswers { resp := { id := 2, result := "true" } } [] [answerOf "2"] :=
    ⟨by decide, (answerOf "2").length, by decide, by decide⟩
  have hClosed : Breaks twoAnswers [] [] := fun length => by
    have hScan : twoAnswers.scan [] true = .more := by decide
    rw [hScan]
    exact Scan.noConfusion
  exact (calls_realSuccess_iff (.cons hFirst (.cons hSecond .nil)) hClosed 0
    [{ method := "bdev_migrate_start" }, { method := "bdev_migrate_cleanup_task" }]).mpr (by simp [InTurn])

/-- The connection is closed; or the answer to the first call comes twice and the second call takes it. -/
theorem not_realSuccess_of_closed :
    ¬ Runs.Guarded (Client.step twoAnswers) (RealSuccess twoAnswers) { conn := [] }
        [{ method := "bdev_migrate_start" }] ∧
      ¬ Runs.Guarded (Client.step twoAnswers) (RealSuccess twoAnswers)
        { conn := [answerOf "1", answerOf "1"] }
        [{ method := "bdev_migrate_start" }, { method := "bdev_migrate_cleanup_task" }] := by
  constructor
  · rintro ⟨h, -⟩
    obtain ⟨-, hErr, -⟩ := h (by decide)
    revert hErr
    decide
  · rintro ⟨-, h, -⟩
    obtain ⟨-, -, hId, -⟩ := h (by decide)
    revert hId
    decide

end Liteio.Spdk.JsonRpc
