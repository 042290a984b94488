import BlankImages.Text.Combining
import BlankImages.Text.Hex
import BlankImages.Text.Printable
import BlankImages.Text.Utf8

/-!
# Quoted byte strings

A byte string is quoted by writing its characters between two quotes.  Some
characters have escapes of two characters; combining characters and those that
are not printable are written by their code, and broken bytes by their value.
-/

namespace BlankImages.Quoted

open Utf8 (Segment)

def codeEscape (char : Char) : List Char :=
  ['\\', 'u', '\x7b'] ++ Hex.digits char.toNat ++ ['\x7d']

def writeChar (char : Char) : List Char :=
  if char = '\x00' then ['\\', '0']
  else if char = '\t' then ['\\', 't']
  else if char = '\r' then ['\\', 'r']
  else if char = '\n' then ['\\', 'n']
  else if char = '"' then ['\\', '"']
  else if char = '\\' then ['\\', '\\']
  else if Combining.contains char then codeEscape char
  else if Printable.contains char then [char]
  else codeEscape char

def writeByte (byte : UInt8) : List Char :=
  ['\\', 'x'] ++ Hex.upper byte

def writeSegment : Segment → List Char
  | .scalar char => writeChar char
  | .broken bytes => bytes.flatMap writeByte

def body (bytes : List UInt8) : List Char :=
  (Utf8.segments bytes).flatMap writeSegment

def write (bytes : List UInt8) : String :=
  String.ofList ('"' :: body bytes ++ ['"'])

end BlankImages.Quoted
