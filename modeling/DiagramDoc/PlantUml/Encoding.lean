import DiagramDoc.Deflate.Stream
import DiagramDoc.Diagram.Language
import DiagramDoc.PlantUml.Base64
import DiagramDoc.PlantUml.Document

/-! # Sources in a URL

A PlantUML server takes the source of a diagram in the path of the URL, either compressed and in
base 64 or, behind `~h`, in hexadecimal. The path names the image format in front of the source.
-/

namespace DiagramDoc.PlantUml

open Text

inductive Encoder where
  | deflate
  | hex
  deriving DecidableEq, Repr

namespace Encoder

def name : Encoder → String
  | deflate => "deflate"
  | hex => "hex"

/-- A document as a segment of a path. Neither encoder can fail: the compressor writes to memory,
which takes every byte, and every byte has hexadecimal digits. So the result is no `Option`, and an
encoder that reports an error is none of these. -/
def encode (encoder : Encoder) (document : String) : String :=
  match encoder with
  | deflate => String.ofList (base64 (Deflate.compress (bytes document)))
  | hex => "~h" ++ String.ofList (Text.hex (bytes document))

end Encoder

def publicServer : String := "https://www.plantuml.com/plantuml"

def encodeSource (encoder : Encoder) (source : String) : String :=
  encoder.encode (document source)

/-- The URL of an image: the server without the slashes at its end, the format, and the segment. -/
def imageUrl (server : String) (format : ImageFormat) (segment : String) : String :=
  String.ofList (dropEndWhile (· == '/') server.toList) ++ "/" ++ format.name ++ "/" ++ segment

end DiagramDoc.PlantUml
