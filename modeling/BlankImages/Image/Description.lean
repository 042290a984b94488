import BlankImages.Image.Basic
import BlankImages.Text.Record

/-!
# The text of an image
-/

namespace BlankImages.Image

def record (image : Image) : Record where
  name := "PlaceholderImage"
  fields :=
    [ Record.number "channels" image.channels,
      Record.number "height" image.height,
      Record.number "width" image.width ]

def shapeText (channels height width : Word) : String :=
  "(" ++ toString channels.toNat ++ ", " ++ toString height.toNat ++ ", " ++
    toString width.toNat ++ ")"

end BlankImages.Image
