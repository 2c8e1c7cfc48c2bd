/-! Fingerprints of 64 bits of a text: FNV-1a over its UTF-8 bytes. Different texts may share one. -/
namespace Grader.Text

def fingerprintStart : UInt64 := 14695981039346656037

/-- The fingerprint after one more byte. -/
def mix (h : UInt64) (byte : UInt8) : UInt64 := (h ^^^ byte.toUInt64) * 1099511628211

def fingerprint (s : String) : UInt64 := s.toUTF8.toList.foldl mix fingerprintStart

end Grader.Text
