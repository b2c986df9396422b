import CnpProtocol.Server.ClientRequests

/-!
# Responses

Every handler builds one response and sends it on one socket, or on none: `Connect` on
the socket the request came in on, the other eight on the socket of the session that the
header names. `BALANCE_QUERY_RESPONSE` alone exchanges sequence and context.
-/

namespace Cnp

/-- The socket a handler answers on. -/
def replySocket (s : Server) (c : Socket) : Request → Option Socket
  | .connect _ => some c
  | r => (s.sessionInfo.find? r.hdr.clientID).bind (·.socket)

/-- The balance a response carries. -/
def Response.balance? : Response → Option Dword
  | .balanceQuery m => some m.response.balance
  | _ => none

/-- The transactions a response carries. -/
def Response.transactions : Response → List Transaction
  | .transactionQuery m => m.response.transactions
  | _ => []

/-- What every response says about its request, and that no other carries account data. -/
structure Answers (r : Request) (cerRR : CerType) (resp : Response) : Prop where
  msgType : resp.hdr.msgType = makeMsgType r.type .response
  result : resp.getResponseResult = cerRR.code
  sequence : resp.hdr.sequence =
    if r.type = .balanceQuery then r.hdr.context else r.hdr.sequence
  context : resp.hdr.context =
    if r.type = .balanceQuery then r.hdr.sequence else r.hdr.context
  balance : r.type ≠ .balanceQuery → resp.balance? = none
  transactions : r.type ≠ .transactionQuery → resp.transactions = []

/-! ### One response for each request -/

private theorem withAccount_socket {α : Type} (s : Server) (w : Word) (notLoggedon : CerType)
    (data : α) (act : Qword → AccountInfo → CerType × Server × α) :
    (withAccount s w notLoggedon data act).socket = (s.sessionInfo.find? w).bind (·.socket) := by
  rcases withAccount_cases s w notLoggedon data act with
    ⟨session, h⟩ | ⟨itS, session, _, h⟩ | ⟨itS, session, _, _, h⟩ | ⟨itS, itA, session, _, _, h⟩
  · rw [h, session, Option.bind_none]
  · rw [h, session, Option.bind_some]
  · rw [h, session, Option.bind_some]
  · rw [h, session, Option.bind_some]

/-- A response that carries its result and nothing else, with sequence and context of the
request. -/
theorem answers_result (r : Request) (cerRR : CerType) (w : Word)
    (other : r.type ≠ .balanceQuery) :
    Answers r cerRR
      (.result (.init r.type cerRR.code w r.hdr.sequence r.hdr.context)) where
  msgType := rfl
  result := rfl
  sequence := (if_neg other).symm
  context := (if_neg other).symm
  balance _ := rfl
  transactions _ := rfl

/-- What a handler sends. -/
theorem dispatch_sent (s : Server) (c : Socket) (now : Qword) (r : Request) :
    ∃ resp, (dispatch s c now r).sent = send (replySocket s c r) resp ∧
      Answers r (dispatch s c now r).cerRR resp := by
  cases r with
  | connect m =>
    -- a connect is answered whether or not it is accepted
    simp only [dispatch, processConnectRequest]
    split
    · split
      · exact ⟨_, rfl, ⟨rfl, rfl, rfl, rfl, fun _ => rfl, fun _ => rfl⟩⟩
      · exact ⟨_, rfl, ⟨rfl, rfl, rfl, rfl, fun _ => rfl, fun _ => rfl⟩⟩
    · exact ⟨_, rfl, ⟨rfl, rfl, rfl, rfl, fun _ => rfl, fun _ => rfl⟩⟩
  | createAccount m beyond =>
    have answers cerRR := answers_result (.createAccount m beyond) cerRR m.hdr.clientID
      (by simp [Request.type])
    simp only [dispatch, processCreateAccountRequest, replySocket, Request.hdr]
    split
    next itS session =>
      rw [session, Option.bind_some]
      split
      · split
        · exact ⟨_, rfl, answers .accountExists⟩
        · exact ⟨_, rfl, answers .success⟩
      · exact ⟨_, rfl, answers .invalidNamePin⟩
    next none =>
      -- the response is built and dropped
      rw [none, Option.bind_none]
      exact ⟨_, rfl, answers .invalidClientID⟩
  | logon m beyond =>
    have answers cerRR := answers_result (.logon m beyond) cerRR m.hdr.clientID
      (by simp [Request.type])
    simp only [dispatch, processLogonRequest, replySocket, Request.hdr]
    split
    next itS session =>
      rw [session, Option.bind_some]
      split
      · split
        · exact ⟨_, rfl, answers .success⟩
        · exact ⟨_, rfl, answers .accountNotFound⟩
      · exact ⟨_, rfl, answers .invalidNamePin⟩
    next none =>
      -- the response is built and dropped
      rw [none, Option.bind_none]
      exact ⟨_, rfl, answers .invalidClientID⟩
  | logoff m =>
    have answers cerRR := answers_result (.logoff m) cerRR m.hdr.clientID
      (by simp [Request.type])
    simp only [dispatch, processLogoffRequest, replySocket, Request.hdr]
    split
    next itS session =>
      rw [session, Option.bind_some]
      split
      · exact ⟨_, rfl, answers .success⟩
      · exact ⟨_, rfl, answers .clientNotLoggedon⟩
    next none =>
      -- the response is built and dropped
      rw [none, Option.bind_none]
      exact ⟨_, rfl, answers .invalidClientID⟩
  | deposit m =>
    exact ⟨_, congrArg (send · _) (withAccount_socket s _ _ _ _),
      answers_result (.deposit m) _ _ (by simp [Request.type])⟩
  | withdrawal m =>
    exact ⟨_, congrArg (send · _) (withAccount_socket s _ _ _ _),
      answers_result (.withdrawal m) _ _ (by simp [Request.type])⟩
  | stampPurchase m =>
    exact ⟨_, congrArg (send · _) (withAccount_socket s _ _ _ _),
      answers_result (.stampPurchase m) _ _ (by simp [Request.type])⟩
  | balanceQuery m =>
    -- the constructor takes context and sequence in the other order
    exact ⟨_, congrArg (send · _) (withAccount_socket s _ _ _ _), ⟨rfl, rfl, rfl, rfl,
      fun other => absurd rfl other, fun _ => rfl⟩⟩
  | transactionQuery m =>
    exact ⟨_, congrArg (send · _) (withAccount_socket s _ _ _ _), ⟨rfl, rfl, rfl, rfl,
      fun _ => rfl, fun other => absurd rfl other⟩⟩

theorem mem_send_iff (pSocket : Option Socket) (resp : Response) (out : Socket × Response) :
    out ∈ send pSocket resp ↔ pSocket = some out.1 ∧ out.2 = resp := by
  obtain ⟨c, resp'⟩ := out
  cases pSocket with
  | none => simp [send]
  | some c' => simp [send, eq_comm]

theorem replySocket_of_ne_connect (s : Server) (c : Socket) (r : Request)
    (other : r.type ≠ .connect) :
    replySocket s c r = (s.sessionInfo.find? r.hdr.clientID).bind (·.socket) := by
  cases r with
  | connect m => exact absurd rfl other
  | _ => rfl

/-! ### Matching responses to requests -/

/-- The response belongs to the request. -/
structure Matches (r : Request) (resp : Response) : Prop where
  msgType : resp.hdr.msgType = makeMsgType r.type .response
  sequence : resp.hdr.sequence = r.hdr.sequence
  context : resp.hdr.context = r.hdr.context

/-- Everything a handler sends belongs to its request, except what it sends for a balance
query whose sequence and context differ. -/
theorem responses_match_iff (s : Server) (c : Socket) (now : Qword) (r : Request) :
    (∀ out ∈ (dispatch s c now r).sent, Matches r out.2) ↔
      r.type ≠ .balanceQuery ∨ r.hdr.sequence = r.hdr.context ∨
        ∀ i, s.sessionInfo.find? r.hdr.clientID = some i → i.socket = none := by
  obtain ⟨resp, sent, answers⟩ := dispatch_sent s c now r
  rw [sent]
  constructor
  · intro all
    by_cases query : r.type = .balanceQuery
    · right
      rw [replySocket_of_ne_connect s c r (by rw [query]; decide)] at all
      cases socket : (s.sessionInfo.find? r.hdr.clientID).bind (·.socket) with
      | none =>
        refine Or.inr fun i found => ?_
        rwa [found, Option.bind_some] at socket
      | some c' =>
        -- the response that goes out shows the exchange
        have swapped := (all (c', resp) (by rw [mem_send_iff]; exact ⟨socket, rfl⟩)).sequence
        rw [answers.sequence, if_pos query] at swapped
        exact Or.inl swapped.symm
    · exact Or.inl query
  · rintro condition ⟨c', resp'⟩ member
    obtain ⟨socket, rfl⟩ := (mem_send_iff _ _ _).mp member
    rcases condition with other | equal | silent
    · -- all other handlers pass sequence and context on in order
      exact ⟨answers.msgType, by rw [answers.sequence, if_neg other],
        by rw [answers.context, if_neg other]⟩
    · -- the exchange is invisible
      refine ⟨answers.msgType, ?_, ?_⟩
      · rw [answers.sequence, equal]
        exact ite_self _
      · rw [answers.context, equal]
        exact ite_self _
    · by_cases query : r.type = .balanceQuery
      · -- a balance query without a session socket sends nothing
        rw [replySocket_of_ne_connect s c r (by rw [query]; decide)] at socket
        obtain ⟨i, found, on⟩ := Option.bind_eq_some_iff.mp socket
        rw [silent i found] at on
        cases on
      · exact ⟨answers.msgType, by rw [answers.sequence, if_neg query],
          by rw [answers.context, if_neg query]⟩

/-- The response to a balance query with sequence 4 and context 9 carries them exchanged. -/
theorem balance_response_exchanged :
    ¬ ∀ out ∈ (dispatch (run .empty (Client.firstVisit 7 [65, 110, 110, 97] 4711 500)) 7 0
      (.balanceQuery (.init 4 1 9))).sent, Matches (.balanceQuery (.init 4 1 9)) out.2 := by
  intro all
  obtain ⟨resp, sent, answers⟩ := dispatch_sent
    (run .empty (Client.firstVisit 7 [65, 110, 110, 97] 4711 500)) 7 0
    (.balanceQuery (.init 4 1 9))
  have member := (mem_send_iff (some 7) resp (7, resp)).mpr ⟨rfl, rfl⟩
  have socket : replySocket (run .empty (Client.firstVisit 7 [65, 110, 110, 97] 4711 500)) 7
      (.balanceQuery (.init 4 1 9)) = some 7 := by decide +kernel
  rw [← socket, ← sent] at member
  have sequence := (all _ member).sequence
  rw [answers.sequence] at sequence
  exact absurd sequence (by decide)

/-! ### One answer, to the sender -/

/-- One response goes out, on the connection of the request, with the computed code. -/
def AnsweredOnce (s : Server) (c : Socket) (now : Qword) (r : Request) : Prop :=
  ∃ resp, (dispatch s c now r).sent = [(c, resp)] ∧
    resp.getResponseResult = (dispatch s c now r).cerRR.code

theorem send_eq_singleton_iff (pSocket : Option Socket) (resp resp' : Response) (c : Socket) :
    send pSocket resp = [(c, resp')] ↔ pSocket = some c ∧ resp = resp' := by
  cases pSocket with
  | none => simp [send]
  | some c' => simp [send]

theorem answeredOnce_iff (s : Server) (c : Socket) (now : Qword) (r : Request) :
    AnsweredOnce s c now r ↔ r.type = .connect ∨
      ∃ i, s.sessionInfo.find? r.hdr.clientID = some i ∧ i.socket = some c := by
  obtain ⟨resp, sent, answers⟩ := dispatch_sent s c now r
  have socket : AnsweredOnce s c now r ↔ replySocket s c r = some c := by
    rw [AnsweredOnce, sent]
    constructor
    · rintro ⟨resp', once, _⟩
      exact ((send_eq_singleton_iff _ _ _ _).mp once).1
    · intro socket
      exact ⟨resp, (send_eq_singleton_iff _ _ _ _).mpr ⟨socket, rfl⟩, answers.result⟩
  rw [socket]
  by_cases connect : r.type = .connect
  · have own : replySocket s c r = some c := by
      cases r with
      | connect m => rfl
      | _ => cases connect
    simp [own, connect]
  · rw [replySocket_of_ne_connect s c r connect, Option.bind_eq_some_iff]
    simp [connect]

/-- In every reachable state a request is answered once and to its sender exactly when it
is a connect or its header names a session of the same connection. -/
theorem answered_once_iff (accounts : AccountMap) (transactions : TransactionMap)
    (ops : List Op) (c : Socket) (now : Qword) (r : Request) :
    AnsweredOnce (run (.boot accounts transactions) ops) c now r ↔ r.type = .connect ∨
      ∃ i, (run (.boot accounts transactions) ops).sessionInfo.find? r.hdr.clientID = some i ∧
        i.socket = some c :=
  answeredOnce_iff _ c now r

/-- A logoff before any connect is refused with `CER_INVALID_CLIENT_ID`, and nobody is
told. -/
theorem unknown_client_unanswered :
    (dispatch (run .empty []) 7 0 (.logoff (.init 0 1 0))).cerRR = .invalidClientID ∧
      ¬ AnsweredOnce (run .empty []) 7 0 (.logoff (.init 0 1 0)) := by
  refine ⟨rfl, ?_⟩
  rw [answeredOnce_iff]
  rintro (connect | ⟨i, found, _⟩)
  · cases connect
  · cases found

end Cnp
