namespace Atari800XL.Gtia

def radians (degrees : Float) : Float := degrees * (3.14159265358979323846 / 180.0)

def colorByte (v : Float) : UInt32 :=
  let v := if v < 0.0 then 0.0 else if v > 1.0 then 1.0 else v
  (v * 255.0).round.toUInt32

def rgbOf (color : Nat) : UInt32 :=
  let hue := Float.ofNat (color / 16)
  let brightness := Float.ofNat (color % 16)
  let y := 0.06 + brightness / 15.0 * 0.88
  let angle := radians (303.0 + (hue - 1.0) * 25.7)
  let i := if color / 16 = 0 then 0.0 else 0.22 * angle.cos
  let q := if color / 16 = 0 then 0.0 else 0.22 * angle.sin
  let r := y + 0.956 * i + 0.621 * q
  let g := y - 0.272 * i - 0.647 * q
  let b := y - 1.106 * i + 1.703 * q
  (colorByte r <<< 16) ||| (colorByte g <<< 8) ||| colorByte b

def palette : Array UInt32 := (Array.range 256).map rgbOf

end Atari800XL.Gtia
