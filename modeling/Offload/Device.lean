/-
**Cards and the devices behind them.**

Card 0 is whatever card the framework finds first; any other card is addressed by its device node.
Whether an action runs on a card or in software is chosen by a word in the environment.

Main definitions:

* `Device.ofCard` — the device of a card number;
* `Device.backendOf` — the backend that a value of the environment selects.
-/

import Offload.Text.Blank

set_option relaxedAutoImplicit false
set_option autoImplicit false

namespace Offload.Device

/-- The device that stands for the first card found. -/
def first : String := "IBM,oc-accel"

/-- The device of a card number. -/
def ofCard (card : UInt32) : String :=
  if card = 0 then first
  else "/dev/ocxl/IBM,oc-accel.000" ++ toString card.toNat ++ ":00:00.1.0"

/-- The backend that runs actions on a card. -/
def hardware : String := "FPGA"

/-- The backend that runs actions in software. -/
def software : String := "CPU"

/-- The backend that a value selects: software for `CPU` in any case, with blanks around it or
without; the card for any other value and for none. -/
def backendOf (value : Option String) : String :=
  match value with
  | some v => if (Text.trim v).map Char.toUpper = software then software else hardware
  | none => hardware

end Offload.Device
