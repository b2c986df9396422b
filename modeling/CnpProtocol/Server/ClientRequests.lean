import CnpProtocol.Server.Operations

/-!
# Requests of the client

The requests as `CNP_Client.cpp` builds them, on a connection and with the value of
`g_dwSequenceNumber` they consume: the message constructors with their default arguments.
-/

namespace Cnp

/-- Names that went through a constructor are terminated. -/
theorem CreateAccountRequest.nameTerminated_init (dwSequence : Dword) (wClientID : Word)
    (szFirstName szLastName szEmailAddress : List Byte) (wPIN : Word)
    (dwSSN dwDLN dwClientContext : Dword) (beyond : List Byte) :
    (Request.createAccount (.init dwSequence wClientID szFirstName szLastName szEmailAddress wPIN
      dwSSN dwDLN dwClientContext) beyond).NameTerminated :=
  NameField.zero_mem_set_zero szFirstName

theorem LogonRequest.nameTerminated_init (dwSequence : Dword) (wClientID : Word)
    (szFirstName : List Byte) (wPIN : Word) (dwContext : Dword) (beyond : List Byte) :
    (Request.logon (.init dwSequence wClientID szFirstName wPIN dwContext) beyond).NameTerminated :=
  NameField.zero_mem_set_zero szFirstName

namespace Client

variable (c : Socket) (dwSequence : Dword) (wClientID : Word)

def sendConnect : Op :=
  .message c 0 (.connect (.init dwSequence 0 majorVersion minorVersion validationKey 0))

def sendCreateAccount (szFirstName szLastName szEmailAddress : List Byte) (wPIN : Word) : Op :=
  .message c 0 (.createAccount
    (.init dwSequence wClientID szFirstName szLastName szEmailAddress wPIN 0 0 0) [])

def sendLogIn (szFirstName : List Byte) (wPIN : Word) : Op :=
  .message c 0 (.logon (.init dwSequence wClientID szFirstName wPIN 0) [])

def sendDeposit (dwAmount : Dword) : Op :=
  .message c 0 (.deposit (.init dwSequence wClientID dwAmount .cash 0))

def sendWithdrawal (dwAmount : Dword) : Op :=
  .message c 0 (.withdrawal (.init dwSequence wClientID dwAmount 0))

/-- What the first client of a server sends to open an account and pay in. -/
def firstVisit (szFirstName : List Byte) (wPIN : Word) (dwAmount : Dword) : List Op :=
  [sendConnect c 0, sendCreateAccount c 1 1 szFirstName [] [] wPIN,
    sendLogIn c 2 1 szFirstName wPIN, sendDeposit c 3 1 dwAmount]

theorem nameTerminated_firstVisit (szFirstName : List Byte) (wPIN : Word) (dwAmount : Dword) :
    ∀ op ∈ firstVisit c szFirstName wPIN dwAmount, op.NameTerminated := by
  intro op member
  simp only [firstVisit, List.mem_cons, List.not_mem_nil, or_false] at member
  rcases member with rfl | rfl | rfl | rfl
  · trivial
  · exact CreateAccountRequest.nameTerminated_init 1 1 szFirstName [] [] wPIN 0 0 0 []
  · exact LogonRequest.nameTerminated_init 2 1 szFirstName wPIN 0 []
  · trivial

theorem running_firstVisit (szFirstName : List Byte) (wPIN : Word) (dwAmount : Dword) :
    ∀ op ∈ firstVisit c szFirstName wPIN dwAmount, op.Running := by
  intro op member
  simp only [firstVisit, List.mem_cons, List.not_mem_nil, or_false] at member
  rcases member with rfl | rfl | rfl | rfl <;> trivial

end Client

end Cnp
