import Fiddlesticks.Chat.Agreement
import Fiddlesticks.Chat.AdapterStreams
import Fiddlesticks.Chat.Conversations
import Fiddlesticks.Chat.StreamedCalls
import Fiddlesticks.Chat.ToolResults
import Fiddlesticks.Chat.ToolExecution
import Fiddlesticks.Chat.EventGrammar
import Fiddlesticks.Chat.Retries
import Fiddlesticks.Harness.Gate
import Fiddlesticks.Harness.Batch
import Fiddlesticks.Harness.TurnBudget
import Fiddlesticks.Harness.Termination
import Fiddlesticks.Harness.Initializer
import Fiddlesticks.Harness.Backends
import Fiddlesticks.Memory.Conversations
import Fiddlesticks.Observe.Balance
import Fiddlesticks.Memory.Filesystem.Refinement
import Fiddlesticks.Memory.Filesystem.Replacement
import Fiddlesticks.Memory.Filesystem.Isolation
import Fiddlesticks.Memory.Filesystem.Recovery
import Fiddlesticks.Memory.Postgres.Initialization
import Fiddlesticks.Memory.Postgres.Updates
import Fiddlesticks.Memory.Sqlite.Atomicity
import Fiddlesticks.Memory.Sqlite.Refinement
import Fiddlesticks.Provider.CredentialQueries
import Fiddlesticks.Provider.AdapterRequests
import Fiddlesticks.Provider.Backoff
import Fiddlesticks.Provider.ModelLists
import Fiddlesticks.Provider.OpenAi.Encoders
import Fiddlesticks.Provider.OpenAi.WsFailures
import Fiddlesticks.Provider.OpenAi.WsIsolation
import Fiddlesticks.Provider.OpenAi.WsAgreement
import Fiddlesticks.Provider.OpenAi.Truncation
import Fiddlesticks.Provider.OpenAi.CallMerging
import Fiddlesticks.Provider.OpenAi.ResponseAssembly
