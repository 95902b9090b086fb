/-
**Characters that take no column.**

* `defaultIgnorable`: the property `Default_Ignorable_Code_Point`.
* `joiningMarks`: medial vowels and final consonants of Hangul, marks that are written over or
  before the letter that follows them, and vowel signs that stand for two marks of the letter before
  them.
-/

import TurtleScene.Text.CharSet

namespace TurtleScene.Text

/-- The characters with the property `Default_Ignorable_Code_Point`. -/
def defaultIgnorable : CharSet where
  ranges := [
    (0xAD, 0xAD), (0x34F, 0x34F), (0x61C, 0x61C), (0x115F, 0x1160), (0x17B4, 0x17B5),
    (0x180B, 0x180F), (0x200B, 0x200F), (0x202A, 0x202E), (0x2060, 0x206F), (0x3164, 0x3164),
    (0xFE00, 0xFE0F), (0xFEFF, 0xFEFF), (0xFFA0, 0xFFA0), (0xFFF0, 0xFFF8), (0x1BCA0, 0x1BCA3),
    (0x1D173, 0x1D17A), (0xE0000, 0xE0FFF)]

/-- The characters that join a letter next to them but do not count as extending it. -/
def joiningMarks : CharSet where
  ranges := [
    (0x605, 0x605), (0x70F, 0x70F), (0x890, 0x891), (0x8E2, 0x8E2), (0xCC0, 0xCC0), (0xCC7, 0xCC8),
    (0xCCA, 0xCCB), (0xD4E, 0xD4E), (0x1160, 0x11FF), (0x1B3B, 0x1B3B), (0x1B3D, 0x1B3D),
    (0x1B43, 0x1B43), (0xA8FA, 0xA8FA), (0xD7B0, 0xD7C6), (0xD7CB, 0xD7FB), (0x111C2, 0x111C3),
    (0x1193F, 0x1193F), (0x11941, 0x11941), (0x11A3A, 0x11A3A), (0x11A84, 0x11A89),
    (0x11D46, 0x11D46), (0x11F02, 0x11F02)]

end TurtleScene.Text
