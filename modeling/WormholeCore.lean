import WormholeCore.Lib.OrdMap
import WormholeCore.Lib.UndoLog
import WormholeCore.Lib.History
import WormholeCore.Lib.Word256
import WormholeCore.Lib.Except
import WormholeCore.Lib.Split
import WormholeCore.Boost
import WormholeCore.Lib.Guarded
import WormholeCore.Basic
import WormholeCore.Tally
import WormholeCore.Ledger
import WormholeCore.SpInfo
import WormholeCore.FeeCache
import WormholeCore.Crowd
import WormholeCore.Erc721
import WormholeCore.Sto
import WormholeCore.State
import WormholeCore.Fees
import WormholeCore.Crowdsale
import WormholeCore.Tx
import WormholeCore.Node
import WormholeCore.Purchase
import WormholeCore.Persist
import WormholeCore.StateFiles
import WormholeCore.Reorg
import WormholeCore.Supply
import WormholeCore.Freeze
import WormholeCore.CrowdSafety
import WormholeCore.Issuance
import WormholeCore.Expiry
import WormholeCore.Creation
import WormholeCore.BurnCredit
import WormholeCore.Lib.ProRata
import WormholeCore.SendToOwners
import WormholeCore.SendAll
import WormholeCore.Lib.Decimal
import WormholeCore.Amount
import WormholeCore.Lib.Loop
import WormholeCore.MetaDEx
import WormholeCore.MetaDExBook
import WormholeCore.Lib.WP
import WormholeCore.MetaDExTrade
import WormholeCore.Lib.Probe
import WormholeCore.Erc721Supply
import WormholeCore.Mbstring
import WormholeCore.ArithUint256
import WormholeCore.Lib.Bytes
import WormholeCore.Payload
import WormholeCore.Lib.Hex
import WormholeCore.Script
import WormholeCore.ClassC
import WormholeCore.Recovery
