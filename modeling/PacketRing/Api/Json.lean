import PacketRing.Text.Decimal

/-!
# JSON values

* `Json` : the values that the API answers with. Objects keep the order of their members;
* `Json.received` : what becomes of a real number on the way to a client.
-/

namespace PacketRing

/-- A JSON value. -/
inductive Json where
  | null
  | bool (b : Bool)
  | int (n : Int)
  | real (x : Float)
  | str (s : String)
  | arr (items : List Json)
  | obj (members : List (String × Json))

namespace Json

/-- The value of an optional member. -/
def ofOption (x : Option Json) : Json := x.getD null

/-- The number that a client reads where `x` was sent: it gets the shortest decimal form, and takes
that digits first. -/
def received (x : Float) : Float := (Decimal.ofFloat x).writtenOut.toFloat

end Json

end PacketRing
