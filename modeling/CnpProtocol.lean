import CnpProtocol.Library.OrderedMap
import CnpProtocol.Library.Run
import CnpProtocol.Library.Ledger
import CnpProtocol.Library.Simulation
import CnpProtocol.Library.Fairness
import CnpProtocol.Library.Programs
import CnpProtocol.Library.Logs
import CnpProtocol.Server.Concurrent
import CnpProtocol.Properties.ConcurrentAlone
import CnpProtocol.Properties.ConcurrentContracts
import CnpProtocol.Properties.ConcurrentSafety
import CnpProtocol.Library.JournalBank
import CnpProtocol.Library.Bytes
import CnpProtocol.Protocol.Types
import CnpProtocol.Protocol.Messages
import CnpProtocol.Server.Hash
import CnpProtocol.Server.Tables
import CnpProtocol.Server.Persistence
import CnpProtocol.Server.Messaging
import CnpProtocol.Server.Operations
import CnpProtocol.Properties.Integrity
import CnpProtocol.Properties.Bookkeeping
import CnpProtocol.Properties.History
import CnpProtocol.Properties.Authentication
import CnpProtocol.Properties.ClientIDs
import CnpProtocol.Properties.Isolation
import CnpProtocol.Properties.Recording
import CnpProtocol.Properties.Overdraw
import CnpProtocol.Properties.LogonHistory
import CnpProtocol.Properties.Storage
import CnpProtocol.Properties.ConcurrentConnects
import CnpProtocol.Properties.ConcurrentCreation
import CnpProtocol.Library.Packed
import CnpProtocol.Protocol.Layout
import CnpProtocol.Properties.WireFormat
import CnpProtocol.Properties.ByteTables
import CnpProtocol.Protocol.Encoding
import CnpProtocol.Server.ClientThread
import CnpProtocol.Properties.LeftoverBytes
import CnpProtocol.Properties.Disconnects
import CnpProtocol.Client.Calls
import CnpProtocol.Properties.ClientAnswers
import CnpProtocol.Client.Conversation
import CnpProtocol.Client.Network
import CnpProtocol.Library.Cursor
import CnpProtocol.Properties.CompleteHistory
import CnpProtocol.Properties.BankService
import CnpProtocol.Properties.MessageDelivery
import CnpProtocol.Properties.LinkedConnections
import CnpProtocol.Properties.RemoteCalls
import CnpProtocol.Properties.CallsReturn
import CnpProtocol.Properties.NonInterference
import CnpProtocol.Properties.AccountRequests
import CnpProtocol.Properties.ResultCodes
import CnpProtocol.Properties.Deposits
import CnpProtocol.Properties.Frames
import CnpProtocol.Properties.SessionStates
import CnpProtocol.Server.ReceiveLoop
import CnpProtocol.Properties.SocketErrors
import CnpProtocol.Server.QueryBuffer
import CnpProtocol.Library.Handles
import CnpProtocol.Server.Process
import CnpProtocol.Properties.ProcessHandles
import CnpProtocol.Properties.ProcessRuns
import CnpProtocol.Properties.SocketPointers
import CnpProtocol.Properties.Shutdown
import CnpProtocol.Properties.HistoryPages
import CnpProtocol.Properties.Commutation
import CnpProtocol.Properties.NameBytes
import CnpProtocol.Properties.Loading
import CnpProtocol.Properties.LoadedTables
import CnpProtocol.Library.Reads
import CnpProtocol.Properties.KeyReads
import CnpProtocol.Properties.CustomerIDs
import CnpProtocol.Library.RecursiveMutex
import CnpProtocol.Server.ThreadSafeQueue
import CnpProtocol.Properties.QueueLocks
import CnpProtocol.Library.FileWrites
import CnpProtocol.Properties.TornSaves
import CnpProtocol.Properties.Lifetimes
