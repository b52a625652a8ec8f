import Moca.Payment.LedgerRun
import Moca.Payment.ResumeDebit
import Moca.VirtualGroup.Deposits
import Moca.Sp.GlobalPrice
import Moca.VirtualGroup.Statistics
import Moca.Garbage.Run
import Moca.Payment.SettleTime
import Moca.Payment.Genesis
import Moca.Storage.History
import Moca.Sp.DepositPool
import Moca.Payment.Regroup
import Moca.Permission.SizeLimit
import Moca.Storage.Access
import Moca.VirtualGroup.Settlement
import Moca.VirtualGroup.Reservation
import Moca.Permission.Scope
import Moca.Evm.Created
import Moca.Evm.Gas
import Moca.Ante.Authz
import Moca.Feemarket.BaseFee
import Moca.Challenge.Rewards
import Moca.Challenge.SlashLimits
