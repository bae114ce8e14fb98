import Daybook.Unicode.Runs

/-!
# Breaks

Texts are cut into graphemes, words and sentences by classes of characters, one kind of class for each
kind of cut. A character that plays no part in it has no class. The tables are those of Unicode 16.
-/

namespace Daybook

namespace Unicode

/-- What a text is cut into. -/
inductive Segment where
  | grapheme
  | word
  | sentence
  deriving DecidableEq, Hashable

/-- The classes of all code points for graphemes, as runs from zero on. -/
def graphemeText : String :=
  "10control 1lf 2control 1cr 18control 95 33control 13 1control 594 112extend 275 7extend 263 " ++
  "45extend 1 1extend 1 2extend 1 2extend 1 1extend 56 6prepend 10 11extend 1 1control 46 " ++
  "21extend 16 1extend 101 7extend 1prepend 1 6extend 2 2extend 1 4extend 33 1prepend 1 1extend " ++
  "30 27extend 91 11extend 58 9extend 9 1extend 24 4extend 1 9extend 1 3extend 1 5extend 43 " ++
  "3extend 52 2prepend 5 9extend 42 24extend 1prepend 32extend 1spacingmark 54 1extend " ++
  "1spacingmark 1extend 1 3spacingmark 8extend 4spacingmark 1extend 2spacingmark 1 7extend 10 " ++
  "2extend 29 1extend 2spacingmark 56 1extend 1 1extend 2spacingmark 4extend 2 2spacingmark 2 " ++
  "2spacingmark 1extend 9 1extend 10 2extend 26 1extend 2 2extend 1spacingmark 56 1extend 1 " ++
  "3spacingmark 2extend 4 2extend 2 3extend 3 1extend 30 2extend 3 1extend 11 2extend " ++
  "1spacingmark 56 1extend 1 3spacingmark 5extend 1 2extend 1spacingmark 1 2spacingmark 1extend " ++
  "20 2extend 22 6extend 1 1extend 2spacingmark 56 1extend 1 2extend 1spacingmark 4extend 2 " ++
  "2spacingmark 2 2spacingmark 1extend 7 3extend 10 2extend 30 1extend 59 1extend 1spacingmark " ++
  "1extend 2spacingmark 3 3spacingmark 1 3spacingmark 1extend 9 1extend 40 1extend 3spacingmark " ++
  "1extend 55 1extend 1 3extend 4spacingmark 1 3extend 1 4extend 7 2extend 11 2extend 29 " ++
  "1extend 2spacingmark 56 1extend 1 1spacingmark 2extend 1spacingmark 1extend 2spacingmark 1 " ++
  "3extend 1 4extend 7 2extend 11 2extend 15 1spacingmark 12 2extend 2spacingmark 55 2extend 1 " ++
  "1extend 2spacingmark 4extend 1 3spacingmark 1 3spacingmark 1extend 1prepend 8 1extend 10 " ++
  "2extend 29 1extend 2spacingmark 70 1extend 4 1extend 2spacingmark 3extend 1 1extend 1 " ++
  "7spacingmark 1extend 18 2spacingmark 61 1extend 1 1spacingmark 7extend 12 8extend 98 1extend " ++
  "1 1spacingmark 9extend 11 7extend 73 2extend 27 1extend 1 1extend 1 1extend 4 2spacingmark " ++
  "49 14extend 1spacingmark 5extend 1 2extend 5 11extend 1 36extend 9 1extend 102 4extend " ++
  "1spacingmark 6extend 1 2extend 2spacingmark 2extend 23 2spacingmark 2extend 4 3extend 16 " ++
  "4extend 13 1extend 1 1spacingmark 2extend 6 1extend 15 1extend 98 96l 72v 88t 349 3extend " ++
  "946 4extend 28 3extend 29 2extend 30 2extend 64 2extend 1spacingmark 7extend 8spacingmark " ++
  "1extend 2spacingmark 11extend 9 1extend 45 3extend 1control 1extend 117 2extend 34 1extend " ++
  "118 3extend 4spacingmark 2extend 3spacingmark 4 2spacingmark 1extend 6spacingmark 3extend " ++
  "219 2extend 2spacingmark 1extend 57 1spacingmark 1extend 1spacingmark 7extend 1 1extend 1 " ++
  "1extend 2 8extend 6spacingmark 10extend 2 1extend 48 31extend 49 4extend 1spacingmark 47 " ++
  "10extend 4spacingmark 3extend 38 9extend 12 2extend 1spacingmark 30 1spacingmark 4extend " ++
  "2spacingmark 6extend 56 1extend 1spacingmark 2extend 3spacingmark 1extend 1spacingmark " ++
  "5extend 48 8spacingmark 8extend 2spacingmark 2extend 152 3extend 1 13extend 1spacingmark " ++
  "7extend 4 1extend 6 1extend 2 1spacingmark 2extend 198 64extend 523 1control 1extend 1zwj " ++
  "2control 24 7control 49 16control 96 33extend 3070 3extend 141 1extend 96 32extend 554 " ++
  "6extend 105 2extend 30164 4extend 1 10extend 32 2extend 80 2extend 272 1extend 3 1extend 4 " ++
  "1extend 23 2spacingmark 2extend 1spacingmark 4 1extend 83 2spacingmark 50 16spacingmark " ++
  "2extend 26 18extend 13 1extend 38 8extend 25 11extend 1spacingmark 1extend 12 29l 3 3extend " ++
  "1spacingmark 47 1extend 2spacingmark 4extend 2spacingmark 2extend 2spacingmark 1extend 36 " ++
  "1extend 67 6extend 2spacingmark 2extend 2spacingmark 2extend 12 1extend 8 1extend " ++
  "1spacingmark 46 1extend 51 1extend 1 3extend 2 2extend 5 2extend 1 1extend 41 1spacingmark " ++
  "2extend 2spacingmark 5 1spacingmark 1extend 236 2spacingmark 1extend 2spacingmark 1extend " ++
  "2spacingmark 1 1spacingmark 1extend 18 1lv 27lvt 1lv 27lvt 1lv 27lvt 1lv 27lvt 1lv 27lvt 1lv " ++
  "27lvt 1lv 27lvt 1lv 27lvt 1lv 27lvt 1lv 27lvt 1lv 27lvt 1lv 27lvt 1lv 27lvt 1lv 27lvt 1lv " ++
  "27lvt 1lv 27lvt 1lv 27lvt 1lv 27lvt 1lv 27lvt 1lv 27lvt 1lv 27lvt 1lv 27lvt 1lv 27lvt 1lv " ++
  "27lvt 1lv 27lvt 1lv 27lvt 1lv 27lvt 1lv 27lvt 1lv 27lvt 1lv 27lvt 1lv 27lvt 1lv 27lvt 1lv " ++
  "27lvt 1lv 27lvt 1lv 27lvt 1lv 27lvt 1lv 27lvt 1lv 27lvt 1lv 27lvt 1lv 27lvt 1lv 27lvt 1lv " ++
  "27lvt 1lv 27lvt 1lv 27lvt 1lv 27lvt 1lv 27lvt 1lv 27lvt 1lv 27lvt 1lv 27lvt 1lv 27lvt 1lv " ++
  "27lvt 1lv 27lvt 1lv 27lvt 1lv 27lvt 1lv 27lvt 1lv 27lvt 1lv 27lvt 1lv 27lvt 1lv 27lvt 1lv " ++
  "27lvt 1lv 27lvt 1lv 27lvt 1lv 27lvt 1lv 27lvt 1lv 27lvt 1lv 27lvt 1lv 27lvt 1lv 27lvt 1lv " ++
  "27lvt 1lv 27lvt 1lv 27lvt 1lv 27lvt 1lv 27lvt 1lv 27lvt 1lv 27lvt 1lv 27lvt 1lv 27lvt 1lv " ++
  "27lvt 1lv 27lvt 1lv 27lvt 1lv 27lvt 1lv 27lvt 1lv 27lvt 1lv 27lvt 1lv 27lvt 1lv 27lvt 1lv " ++
  "27lvt 1lv 27lvt 1lv 27lvt 1lv 27lvt 1lv 27lvt 1lv 27lvt 1lv 27lvt 1lv 27lvt 1lv 27lvt 1lv " ++
  "27lvt 1lv 27lvt 1lv 27lvt 1lv 27lvt 1lv 27lvt 1lv 27lvt 1lv 27lvt 1lv 27lvt 1lv 27lvt 1lv " ++
  "27lvt 1lv 27lvt 1lv 27lvt 1lv 27lvt 1lv 27lvt 1lv 27lvt 1lv 27lvt 1lv 27lvt 1lv 27lvt 1lv " ++
  "27lvt 1lv 27lvt 1lv 27lvt 1lv 27lvt 1lv 27lvt 1lv 27lvt 1lv 27lvt 1lv 27lvt 1lv 27lvt 1lv " ++
  "27lvt 1lv 27lvt 1lv 27lvt 1lv 27lvt 1lv 27lvt 1lv 27lvt 1lv 27lvt 1lv 27lvt 1lv 27lvt 1lv " ++
  "27lvt 1lv 27lvt 1lv 27lvt 1lv 27lvt 1lv 27lvt 1lv 27lvt 1lv 27lvt 1lv 27lvt 1lv 27lvt 1lv " ++
  "27lvt 1lv 27lvt 1lv 27lvt 1lv 27lvt 1lv 27lvt 1lv 27lvt 1lv 27lvt 1lv 27lvt 1lv 27lvt 1lv " ++
  "27lvt 1lv 27lvt 1lv 27lvt 1lv 27lvt 1lv 27lvt 1lv 27lvt 1lv 27lvt 1lv 27lvt 1lv 27lvt 1lv " ++
  "27lvt 1lv 27lvt 1lv 27lvt 1lv 27lvt 1lv 27lvt 1lv 27lvt 1lv 27lvt 1lv 27lvt 1lv 27lvt 1lv " ++
  "27lvt 1lv 27lvt 1lv 27lvt 1lv 27lvt 1lv 27lvt 1lv 27lvt 1lv 27lvt 1lv 27lvt 1lv 27lvt 1lv " ++
  "27lvt 1lv 27lvt 1lv 27lvt 1lv 27lvt 1lv 27lvt 1lv 27lvt 1lv 27lvt 1lv 27lvt 1lv 27lvt 1lv " ++
  "27lvt 1lv 27lvt 1lv 27lvt 1lv 27lvt 1lv 27lvt 1lv 27lvt 1lv 27lvt 1lv 27lvt 1lv 27lvt 1lv " ++
  "27lvt 1lv 27lvt 1lv 27lvt 1lv 27lvt 1lv 27lvt 1lv 27lvt 1lv 27lvt 1lv 27lvt 1lv 27lvt 1lv " ++
  "27lvt 1lv 27lvt 1lv 27lvt 1lv 27lvt 1lv 27lvt 1lv 27lvt 1lv 27lvt 1lv 27lvt 1lv 27lvt 1lv " ++
  "27lvt 1lv 27lvt 1lv 27lvt 1lv 27lvt 1lv 27lvt 1lv 27lvt 1lv 27lvt 1lv 27lvt 1lv 27lvt 1lv " ++
  "27lvt 1lv 27lvt 1lv 27lvt 1lv 27lvt 1lv 27lvt 1lv 27lvt 1lv 27lvt 1lv 27lvt 1lv 27lvt 1lv " ++
  "27lvt 1lv 27lvt 1lv 27lvt 1lv 27lvt 1lv 27lvt 1lv 27lvt 1lv 27lvt 1lv 27lvt 1lv 27lvt 1lv " ++
  "27lvt 1lv 27lvt 1lv 27lvt 1lv 27lvt 1lv 27lvt 1lv 27lvt 1lv 27lvt 1lv 27lvt 1lv 27lvt 1lv " ++
  "27lvt 1lv 27lvt 1lv 27lvt 1lv 27lvt 1lv 27lvt 1lv 27lvt 1lv 27lvt 1lv 27lvt 1lv 27lvt 1lv " ++
  "27lvt 1lv 27lvt 1lv 27lvt 1lv 27lvt 1lv 27lvt 1lv 27lvt 1lv 27lvt 1lv 27lvt 1lv 27lvt 1lv " ++
  "27lvt 1lv 27lvt 1lv 27lvt 1lv 27lvt 1lv 27lvt 1lv 27lvt 1lv 27lvt 1lv 27lvt 1lv 27lvt 1lv " ++
  "27lvt 1lv 27lvt 1lv 27lvt 1lv 27lvt 1lv 27lvt 1lv 27lvt 1lv 27lvt 1lv 27lvt 1lv 27lvt 1lv " ++
  "27lvt 1lv 27lvt 1lv 27lvt 1lv 27lvt 1lv 27lvt 1lv 27lvt 1lv 27lvt 1lv 27lvt 1lv 27lvt 1lv " ++
  "27lvt 1lv 27lvt 1lv 27lvt 1lv 27lvt 1lv 27lvt 1lv 27lvt 1lv 27lvt 1lv 27lvt 1lv 27lvt 1lv " ++
  "27lvt 1lv 27lvt 1lv 27lvt 1lv 27lvt 1lv 27lvt 1lv 27lvt 1lv 27lvt 1lv 27lvt 1lv 27lvt 1lv " ++
  "27lvt 1lv 27lvt 1lv 27lvt 1lv 27lvt 1lv 27lvt 1lv 27lvt 1lv 27lvt 1lv 27lvt 1lv 27lvt 1lv " ++
  "27lvt 1lv 27lvt 1lv 27lvt 1lv 27lvt 1lv 27lvt 1lv 27lvt 1lv 27lvt 1lv 27lvt 1lv 27lvt 1lv " ++
  "27lvt 1lv 27lvt 1lv 27lvt 1lv 27lvt 1lv 27lvt 1lv 27lvt 1lv 27lvt 1lv 27lvt 1lv 27lvt 1lv " ++
  "27lvt 1lv 27lvt 1lv 27lvt 1lv 27lvt 1lv 27lvt 1lv 27lvt 1lv 27lvt 1lv 27lvt 1lv 27lvt 1lv " ++
  "27lvt 1lv 27lvt 1lv 27lvt 1lv 27lvt 1lv 27lvt 1lv 27lvt 1lv 27lvt 1lv 27lvt 1lv 27lvt 1lv " ++
  "27lvt 1lv 27lvt 1lv 27lvt 1lv 27lvt 1lv 27lvt 1lv 27lvt 1lv 27lvt 1lv 27lvt 1lv 27lvt 1lv " ++
  "27lvt 1lv 27lvt 1lv 27lvt 1lv 27lvt 1lv 27lvt 1lv 27lvt 1lv 27lvt 1lv 27lvt 1lv 27lvt 1lv " ++
  "27lvt 1lv 27lvt 1lv 27lvt 1lv 27lvt 1lv 27lvt 1lv 27lvt 1lv 27lvt 1lv 27lvt 1lv 27lvt 1lv " ++
  "27lvt 1lv 27lvt 1lv 27lvt 1lv 27lvt 1lv 27lvt 1lv 27lvt 1lv 27lvt 1lv 27lvt 1lv 27lvt 1lv " ++
  "27lvt 1lv 27lvt 1lv 27lvt 1lv 27lvt 1lv 27lvt 1lv 27lvt 1lv 27lvt 12 23v 4 49t 8994 1extend " ++
  "737 16extend 16 16extend 207 1control 158 2extend 80 12control 513 1extend 226 1extend 149 " ++
  "5extend 1670 3extend 1 2extend 5 4extend 40 3extend 4 1extend 165 2extend 573 4extend 65 " ++
  "5extend 317 2extend 79 4extend 70 11extend 49 4extend 122 1spacingmark 1extend 1spacingmark " ++
  "53 15extend 41 1extend 2 2extend 10 3extend 1spacingmark 45 3spacingmark 4extend " ++
  "2spacingmark 2extend 2 1prepend 4 1extend 10 1prepend 50 3extend 36 5extend 1spacingmark " ++
  "8extend 16 2spacingmark 44 1extend 12 2extend 1spacingmark 48 3spacingmark 9extend " ++
  "1spacingmark 1extend 1 2prepend 5 4extend 1 1spacingmark 1extend 92 3spacingmark 3extend " ++
  "2spacingmark 4extend 6 1extend 2 1extend 157 1extend 3spacingmark 8extend 21 2extend " ++
  "2spacingmark 55 2extend 1 1extend 1spacingmark 1extend 4spacingmark 2 2spacingmark 2 " ++
  "2spacingmark 1extend 9 1extend 10 2spacingmark 2 7extend 3 5extend 67 1extend 2spacingmark " ++
  "6extend 1 1extend 2 1extend 1 3extend 1spacingmark 1 2spacingmark 3extend 1prepend 1extend " ++
  "14 2extend 82 3spacingmark 8extend 2spacingmark 3extend 1spacingmark 1extend 23 1extend 81 " ++
  "1extend 2spacingmark 6extend 1spacingmark 1extend 2spacingmark 1extend 1spacingmark 2extend " ++
  "1spacingmark 2extend 235 1extend 2spacingmark 4extend 2 4spacingmark 2extend 1spacingmark " ++
  "2extend 27 2extend 82 3spacingmark 8extend 2spacingmark 1extend 1spacingmark 2extend 106 " ++
  "1extend 1spacingmark 1extend 2spacingmark 8extend 101 1extend 1spacingmark 1extend 2 4extend " ++
  "1spacingmark 5extend 256 3spacingmark 9extend 1spacingmark 2extend 245 1extend 5spacingmark " ++
  "1 2spacingmark 2 4extend 1prepend 1spacingmark 1prepend 1spacingmark 1extend 141 " ++
  "3spacingmark 4extend 2 2extend 4spacingmark 1extend 3 1spacingmark 28 10extend 40 6extend " ++
  "1spacingmark 1 4extend 8 1extend 9 6extend 2spacingmark 3extend 40 6prepend 13extend " ++
  "1spacingmark 2extend 405 1spacingmark 7extend 1 6extend 1spacingmark 1extend 82 22extend 1 " ++
  "1spacingmark 7extend 1spacingmark 2extend 1spacingmark 2extend 122 6extend 3 1extend 1 " ++
  "2extend 1 7extend 1prepend 1extend 66 5spacingmark 1 2extend 1 2spacingmark 1extend " ++
  "1spacingmark 1extend 347 2extend 2spacingmark 9 2extend 1prepend 1spacingmark 48 " ++
  "2spacingmark 5extend 3 2spacingmark 3extend 23 1extend 5333 16control 1extend 6 15extend " ++
  "11464 12extend 3spacingmark 3extend 2496 5extend 59 7extend 556 1v 3 4v 484 1extend 1 " ++
  "55spacingmark 7 4extend 81 1extend 11 2extend 19627 2extend 1 4control 4700 46extend 2 " ++
  "23extend 542 5extend 3 6extend 8control 8extend 2 7extend 30 4extend 148 3extend 1979 " ++
  "55extend 4 50extend 8 1extend 14 1extend 22 5extend 1 15extend 1360 7extend 1 17extend 2 " ++
  "7extend 1 2extend 1 5extend 100 1extend 160 7extend 375 1extend 61 4extend 508 4extend 254 " ++
  "2extend 736 7extend 109 7extend 2203 26regionalindicator 507 5extend 789504 32control " ++
  "96extend 128control 240extend 3600control 192512"

/-- The classes of all code points for words, as runs from zero on. -/
def wordText : String :=
  "10 1lf 2newline 1cr 18 1wsegspace 1 1doublequote 4 1singlequote 4 1midnum 1 1midnumlet 1 " ++
  "10numeric 1midletter 1midnum 5 26aletter 4 1extendnumlet 1 26aletter 10 1newline 36 1aletter " ++
  "2 1format 7 1aletter 1 1midletter 1aletter 1 1aletter 5 23aletter 1 31aletter 1 480aletter 6 " ++
  "34aletter 112extend 5aletter 1 2aletter 2 4aletter 1midnum 1aletter 6 1aletter 1midletter " ++
  "3aletter 1 1aletter 1 20aletter 1 83aletter 1 139aletter 1 7extend 166aletter 1 38aletter 2 " ++
  "4aletter 1 1aletter 1midletter 41aletter 1midnum 1aletter 6 45extend 1 1extend 1 2extend 1 " ++
  "2extend 1 1extend 8 27hebrewletter 4 4hebrewletter 1aletter 1midletter 11 6numeric 6 2midnum " ++
  "2 11extend 1 1format 3 43aletter 21extend 10numeric 1 1numeric 1midnum 1 2aletter 1extend " ++
  "99aletter 1 1aletter 7extend 1numeric 1 6extend 2aletter 2extend 1 4extend 2aletter " ++
  "10numeric 3aletter 2 1aletter 15 2aletter 1extend 30aletter 27extend 2 89aletter 11extend " ++
  "1aletter 14 10numeric 33aletter 9extend 2aletter 2 1midnum 1 1aletter 2 1extend 2 22aletter " ++
  "4extend 1aletter 9extend 1aletter 3extend 1aletter 5extend 18 25aletter 3extend 4 11aletter " ++
  "5 24aletter 1 6aletter 1 2numeric 5 9extend 42aletter 24extend 1numeric 33extend 54aletter " ++
  "3extend 1aletter 18extend 1aletter 7extend 10aletter 2extend 2 10numeric 1 16aletter 3extend " ++
  "1 8aletter 2 2aletter 2 22aletter 1 7aletter 1 1aletter 3 4aletter 2 1extend 1aletter " ++
  "7extend 2 2extend 2 3extend 1aletter 8 1extend 4 2aletter 1 3aletter 2extend 2 10numeric " ++
  "2aletter 10 1aletter 1 1extend 2 3extend 1 6aletter 4 2aletter 2 22aletter 1 7aletter 1 " ++
  "2aletter 1 2aletter 1 2aletter 2 1extend 1 5extend 4 2extend 2 3extend 3 1extend 7 4aletter " ++
  "1 1aletter 7 10numeric 2extend 3aletter 1extend 11 3extend 1 9aletter 1 3aletter 1 22aletter " ++
  "1 7aletter 1 2aletter 1 5aletter 2 1extend 1aletter 8extend 1 3extend 1 3extend 2 1aletter " ++
  "15 2aletter 2extend 2 10numeric 9 1aletter 6extend 1 3extend 1 8aletter 2 2aletter 2 " ++
  "22aletter 1 7aletter 1 2aletter 1 5aletter 2 1extend 1aletter 7extend 2 2extend 2 3extend 7 " ++
  "3extend 4 2aletter 1 3aletter 2extend 2 10numeric 1 1aletter 16 1extend 1aletter 1 6aletter " ++
  "3 3aletter 1 4aletter 3 2aletter 1 1aletter 1 2aletter 3 2aletter 3 3aletter 3 12aletter 4 " ++
  "5extend 3 3extend 1 4extend 2 1aletter 6 1extend 14 10numeric 16 5extend 8aletter 1 3aletter " ++
  "1 23aletter 1 16aletter 2 1extend 1aletter 7extend 1 3extend 1 4extend 7 2extend 1 3aletter " ++
  "2 1aletter 2 2aletter 2extend 2 10numeric 16 1aletter 3extend 1 8aletter 1 3aletter 1 " ++
  "23aletter 1 10aletter 1 5aletter 2 1extend 1aletter 7extend 1 3extend 1 4extend 7 2extend 6 " ++
  "2aletter 1 2aletter 2extend 2 10numeric 1 2aletter 1extend 12 4extend 9aletter 1 3aletter 1 " ++
  "41aletter 2extend 1aletter 7extend 1 3extend 1 4extend 1aletter 5 3aletter 1extend 7 " ++
  "3aletter 2extend 2 10numeric 10 6aletter 1 3extend 1 18aletter 3 24aletter 1 9aletter 1 " ++
  "1aletter 2 7aletter 3 1extend 4 6extend 1 1extend 1 8extend 6 10numeric 2 2extend 61 1extend " ++
  "2 7extend 12 8extend 1 10numeric 87 1extend 2 9extend 11 7extend 1 10numeric 38 1aletter 23 " ++
  "2extend 6 10numeric 11 1extend 1 1extend 1 1extend 4 2extend 8aletter 1 36aletter 4 20extend " ++
  "1 2extend 5aletter 11extend 1 36extend 9 1extend 100 20extend 1 10numeric 12 4extend 4 " ++
  "3extend 1 3extend 2 7extend 3 4extend 13 12extend 1 1extend 10numeric 4extend 2 38aletter 1 " ++
  "1aletter 5 1aletter 2 43aletter 1 333aletter 1 4aletter 2 7aletter 1 1aletter 1 4aletter 2 " ++
  "41aletter 1 4aletter 2 33aletter 1 4aletter 2 7aletter 1 1aletter 1 4aletter 2 15aletter 1 " ++
  "57aletter 1 4aletter 2 67aletter 2 3extend 32 16aletter 16 86aletter 2 6aletter 3 620aletter " ++
  "2 17aletter 1wsegspace 26aletter 5 75aletter 3 11aletter 7 18aletter 4extend 9 19aletter " ++
  "3extend 11 18aletter 2extend 12 13aletter 1 3aletter 1 2extend 64 32extend 9 1extend 2 " ++
  "10numeric 33 3extend 1format 1extend 10numeric 6 89aletter 7 5aletter 2extend 34aletter " ++
  "1extend 1aletter 5 70aletter 10 31aletter 1 12extend 4 12extend 10 10numeric 128 11numeric " ++
  "37 23aletter 5extend 57 10extend 1 29extend 2 1extend 10numeric 6 10numeric 22 31extend 49 " ++
  "5extend 47aletter 17extend 8aletter 3 10numeric 17 9extend 12 3extend 30aletter 13extend " ++
  "2aletter 10numeric 44aletter 14extend 12 36aletter 20extend 8 10numeric 3 3aletter 10numeric " ++
  "36aletter 2 11aletter 5 43aletter 2 3aletter 16 3extend 1 21extend 4aletter 1extend 6aletter " ++
  "1extend 2aletter 3extend 1aletter 5 192aletter 64extend 278aletter 2 6aletter 2 38aletter 2 " ++
  "6aletter 2 8aletter 1 1aletter 1 1aletter 1 1aletter 1 31aletter 2 53aletter 1 7aletter 1 " ++
  "1aletter 3 3aletter 1 7aletter 3 4aletter 2 6aletter 4 13aletter 5 3aletter 1 7aletter 3 " ++
  "7wsegspace 1 3wsegspace 1 1extend 1zwj 2format 8 2midnumlet 10 1midnumlet 2 1midletter " ++
  "2newline 5format 1extendnumlet 15 2extendnumlet 3 1midnum 15 1extendnumlet 10 1wsegspace " ++
  "5format 1 10format 1 1aletter 13 1aletter 16 13aletter 51 33extend 17 1aletter 4 1aletter 2 " ++
  "10aletter 1 1aletter 3 5aletter 6 1aletter 1 1aletter 1 1aletter 1 4aletter 1 11aletter 2 " ++
  "4aletter 5 5aletter 4 1aletter 17 41aletter 813 52aletter 1814 229aletter 6 4aletter 3extend " ++
  "2aletter 12 38aletter 1 1aletter 5 1aletter 2 56aletter 7 1aletter 15 1extend 23aletter 9 " ++
  "7aletter 1 7aletter 1 7aletter 1 7aletter 1 7aletter 1 7aletter 1 7aletter 1 7aletter 1 " ++
  "32extend 47 1aletter 464 1wsegspace 4 1aletter 36 6extend 1 5katakana 5 2aletter 92 2extend " ++
  "2katakana 3 91katakana 1 4katakana 5 43aletter 1 94aletter 17 32aletter 48 16katakana 208 " ++
  "47katakana 1 88katakana 27816 1165aletter 67 46aletter 2 269aletter 3 16aletter 10numeric " ++
  "2aletter 20 47aletter 4extend 1 10extend 1 31aletter 2extend 80aletter 2extend 22 198aletter " ++
  "2 2aletter 1 1aletter 1 8aletter 21 16aletter 1extend 3aletter 1extend 4aletter 1extend " ++
  "23aletter 5extend 4 1extend 19 52aletter 12 2extend 50aletter 18extend 10 10numeric 6 " ++
  "18extend 6aletter 3 1aletter 1 2aletter 1extend 10numeric 28aletter 8extend 2 23aletter " ++
  "13extend 12 29aletter 3 4extend 47aletter 14extend 14 1aletter 10numeric 11 1extend 10 " ++
  "10numeric 6 41aletter 14extend 9 3aletter 1extend 8aletter 2extend 2 10numeric 33 3extend 50 " ++
  "1extend 1 3extend 2 2extend 5 2extend 1 1extend 30 11aletter 5extend 2 3aletter 2extend 10 " ++
  "6aletter 2 6aletter 2 6aletter 9 7aletter 1 7aletter 1 58aletter 6 115aletter 8extend 1 " ++
  "2extend 2 10numeric 6 11172aletter 12 23aletter 4 49aletter 8964 7aletter 12 5aletter 5 " ++
  "1hebrewletter 1extend 10hebrewletter 1 13hebrewletter 1 5hebrewletter 1 1hebrewletter 1 " ++
  "2hebrewletter 1 2hebrewletter 1 10hebrewletter 98aletter 33 363aletter 18 64aletter 2 " ++
  "54aletter 40 12aletter 4 16extend 3 1midletter 12 16extend 3 2extendnumlet 24 3extendnumlet " ++
  "1midnum 1 1midnumlet 1 1midnum 1midletter 26 5aletter 1 135aletter 2 1format 7 1midnumlet 4 " ++
  "1midnum 1 1midnumlet 1 10numeric 1midletter 1midnum 5 26aletter 4 1extendnumlet 1 26aletter " ++
  "11 56katakana 2extend 31aletter 3 6aletter 2 6aletter 2 6aletter 2 3aletter 28 3format 4 " ++
  "12aletter 1 26aletter 1 19aletter 1 2aletter 1 15aletter 2 14aletter 34 123aletter 69 " ++
  "53aletter 136 1extend 130 29aletter 3 49aletter 15 1extend 31 32aletter 13 30aletter 5 " ++
  "38aletter 5extend 5 30aletter 2 36aletter 4 8aletter 1 5aletter 42 158aletter 2 10numeric 6 " ++
  "36aletter 4 36aletter 4 40aletter 8 52aletter 12 11aletter 1 15aletter 1 7aletter 1 2aletter " ++
  "1 11aletter 1 15aletter 1 7aletter 1 2aletter 3 52aletter 12 311aletter 9 22aletter 10 " ++
  "8aletter 24 6aletter 1 42aletter 1 9aletter 69 6aletter 2 1aletter 1 44aletter 1 2aletter 3 " ++
  "1aletter 2 23aletter 10 23aletter 9 31aletter 65 19aletter 1 2aletter 10 22aletter 10 " ++
  "26aletter 70 56aletter 6 2aletter 64 1aletter 3extend 1 2extend 5 4extend 4aletter 1 " ++
  "3aletter 1 29aletter 2 3extend 4 1extend 32 29aletter 3 29aletter 35 8aletter 1 28aletter " ++
  "2extend 25 54aletter 10 22aletter 10 19aletter 13 18aletter 110 73aletter 55 51aletter 13 " ++
  "51aletter 13 36aletter 4extend 8 10numeric 6 10numeric 28aletter 3 5extend 1 23aletter 250 " ++
  "42aletter 1 2extend 3 2aletter 16 3aletter 55 4extend 29aletter 10 1aletter 8 22aletter " ++
  "11extend 31 18aletter 4extend 42 21aletter 27 23aletter 9 3extend 53aletter 15extend 31 " ++
  "10numeric 1extend 2aletter 2extend 1aletter 9 4extend 45aletter 11extend 2 1numeric 4 " ++
  "1extend 10 1numeric 2 25aletter 7 10numeric 6 3extend 36aletter 14extend 1 10numeric 4 " ++
  "1aletter 2extend 1aletter 8 35aletter 1extend 2 1aletter 9 3extend 48aletter 14extend " ++
  "4aletter 4 4extend 1 2extend 10numeric 1aletter 1 1aletter 35 18aletter 1 25aletter 12extend " ++
  "6 1extend 2aletter 1extend 62 7aletter 1 1aletter 1 4aletter 1 15aletter 1 10aletter 7 " ++
  "47aletter 12extend 5 10numeric 6 4extend 1 8aletter 2 2aletter 2 22aletter 1 7aletter 1 " ++
  "2aletter 1 5aletter 1 2extend 1aletter 7extend 2 2extend 2 3extend 2 1aletter 6 1extend 5 " ++
  "5aletter 2extend 2 7extend 3 5extend 11 10aletter 1 1aletter 2 1aletter 1 38aletter 1 " ++
  "1aletter 9extend 1 1extend 2 1extend 1 4extend 1 5extend 1aletter 1extend 1aletter 13 " ++
  "2extend 29 53aletter 18extend 4aletter 5 10numeric 4 1extend 3aletter 30 48aletter 20extend " ++
  "2aletter 1 1aletter 8 10numeric 166 47aletter 7extend 2 9extend 23 4aletter 2extend 34 " ++
  "48aletter 17extend 3 1aletter 11 10numeric 38 43aletter 13extend 1aletter 7 10numeric 6 " ++
  "20numeric 57 15extend 4 10numeric 198 44aletter 15extend 101 64aletter 10numeric 21 8aletter " ++
  "2 1aletter 2 8aletter 1 2aletter 1 24aletter 6extend 1 2extend 2 4extend 1aletter 1extend " ++
  "1aletter 2extend 12 10numeric 70 8aletter 2 39aletter 7extend 2 7extend 1aletter 1 1aletter " ++
  "1extend 27 1aletter 10extend 40aletter 7extend 1aletter 4extend 8 1extend 8 1aletter " ++
  "11extend 46aletter 16extend 3 1aletter 18 73aletter 199 33aletter 15 10numeric 6 9aletter 1 " ++
  "37aletter 8extend 1 8extend 1aletter 15 10numeric 24 30aletter 2 22extend 1 14extend 73 " ++
  "7aletter 1 2aletter 1 38aletter 6extend 3 1extend 1 2extend 1 7extend 1aletter 1extend 8 " ++
  "10numeric 6 6aletter 1 2aletter 1 32aletter 5extend 1 2extend 1 5extend 1aletter 7 10numeric " ++
  "310 19aletter 4extend 9 2extend 1aletter 1extend 13aletter 1 34aletter 7extend 3 5extend 13 " ++
  "10numeric 1extend 85 1aletter 79 922aletter 102 111aletter 17 196aletter 2636 97aletter 15 " ++
  "1072aletter 16format 1extend 6aletter 15extend 10 3995aletter 5 583aletter 6841 30aletter " ++
  "18extend 10numeric 1734 569aletter 7 31aletter 1 10numeric 6 79aletter 1 10numeric 6 " ++
  "30aletter 2 5extend 11 48aletter 7extend 9 4aletter 12 10numeric 9 21aletter 5 19aletter 432 " ++
  "45aletter 3 10numeric 198 64aletter 128 75aletter 4 1extend 1aletter 55extend 7 4extend " ++
  "13aletter 64 2aletter 1 1aletter 1extend 11 2extend 16382 4katakana 1 7katakana 1 2katakana " ++
  "1 1katakana 287 3katakana 50 1katakana 14 4katakana 2712 107aletter 5 13aletter 3 9aletter 7 " ++
  "10aletter 3 2extend 1 4format 4172 10numeric 518 46extend 2 23extend 542 5extend 3 6extend " ++
  "8format 8extend 2 7extend 30 4extend 148 3extend 443 85aletter 1 71aletter 1 2aletter 2 " ++
  "1aletter 2 2aletter 2 4aletter 1 12aletter 1 1aletter 1 7aletter 1 65aletter 1 4aletter 2 " ++
  "8aletter 1 7aletter 1 28aletter 1 4aletter 1 5aletter 1 1aletter 3 7aletter 1 340aletter 2 " ++
  "25aletter 1 25aletter 1 31aletter 1 25aletter 1 31aletter 1 25aletter 1 31aletter 1 " ++
  "25aletter 1 31aletter 1 25aletter 1 8aletter 2 50numeric 512 55extend 4 50extend 8 1extend " ++
  "14 1extend 22 5extend 1 15extend 1104 31aletter 6 6aletter 213 7extend 1 17extend 2 7extend " ++
  "1 2extend 1 5extend 5 62aletter 33 1extend 112 45aletter 3 7extend 7aletter 2 10numeric 4 " ++
  "1aletter 321 30aletter 1extend 17 44aletter 4extend 10numeric 470 28aletter 4extend " ++
  "10numeric 214 30aletter 2extend 1aletter 10numeric 485 7aletter 1 4aletter 1 2aletter 1 " ++
  "15aletter 1 197aletter 11 7extend 41 68aletter 7extend 1aletter 4 10numeric 1190 4aletter 1 " ++
  "27aletter 1 2aletter 1 1aletter 2 1aletter 1 10aletter 1 4aletter 1 1aletter 1 1aletter 6 " ++
  "1aletter 4 1aletter 1 1aletter 1 1aletter 1 3aletter 1 2aletter 1 1aletter 2 1aletter 1 " ++
  "1aletter 1 1aletter 1 1aletter 1 1aletter 1 2aletter 1 1aletter 2 4aletter 1 7aletter 1 " ++
  "4aletter 1 4aletter 1 1aletter 1 10aletter 1 17aletter 5 3aletter 1 5aletter 1 17aletter 628 " ++
  "26aletter 6 26aletter 6 26aletter 92 26regionalindicator 507 5extend 2032 10numeric 787463 " ++
  "1format 30 96extend 128 240extend 196112"

/-- The classes of all code points for sentences, as runs from zero on. -/
def sentenceText : String :=
  "9 1sp 1lf 2sp 1cr 18 1sp 1sterm 1close 4 3close 2 2scontinue 1aterm 1 10numeric 2scontinue 3 " ++
  "1sterm 1 26upper 1close 1 1close 3 26lower 1close 1 1close 7 1sep 26 1sp 9 1lower 1close 1 " ++
  "1format 7 1lower 4 1lower 1close 4 23upper 1 7upper 24lower 1 8lower 1upper 1lower 1upper " ++
  "1lower 1upper 1lower 1upper 1lower 1upper 1lower 1upper 1lower 1upper 1lower 1upper 1lower " ++
  "1upper 1lower 1upper 1lower 1upper 1lower 1upper 1lower 1upper 1lower 1upper 1lower 1upper " ++
  "1lower 1upper 1lower 1upper 1lower 1upper 1lower 1upper 1lower 1upper 1lower 1upper 1lower " ++
  "1upper 1lower 1upper 1lower 1upper 1lower 1upper 1lower 1upper 1lower 1upper 1lower 1upper " ++
  "2lower 1upper 1lower 1upper 1lower 1upper 1lower 1upper 1lower 1upper 1lower 1upper 1lower " ++
  "1upper 1lower 1upper 2lower 1upper 1lower 1upper 1lower 1upper 1lower 1upper 1lower 1upper " ++
  "1lower 1upper 1lower 1upper 1lower 1upper 1lower 1upper 1lower 1upper 1lower 1upper 1lower " ++
  "1upper 1lower 1upper 1lower 1upper 1lower 1upper 1lower 1upper 1lower 1upper 1lower 1upper " ++
  "1lower 1upper 1lower 1upper 1lower 1upper 1lower 1upper 1lower 1upper 1lower 2upper 1lower " ++
  "1upper 1lower 1upper 3lower 2upper 1lower 1upper 1lower 2upper 1lower 3upper 2lower 4upper " ++
  "1lower 2upper 1lower 3upper 3lower 2upper 1lower 2upper 1lower 1upper 1lower 1upper 1lower " ++
  "2upper 1lower 1upper 2lower 1upper 1lower 2upper 1lower 3upper 1lower 1upper 1lower 2upper " ++
  "2lower 1oletter 1upper 3lower 4oletter 2upper 1lower 2upper 1lower 2upper 1lower 1upper " ++
  "1lower 1upper 1lower 1upper 1lower 1upper 1lower 1upper 1lower 1upper 1lower 1upper 1lower " ++
  "1upper 2lower 1upper 1lower 1upper 1lower 1upper 1lower 1upper 1lower 1upper 1lower 1upper " ++
  "1lower 1upper 1lower 1upper 1lower 1upper 2lower 2upper 1lower 1upper 1lower 3upper 1lower " ++
  "1upper 1lower 1upper 1lower 1upper 1lower 1upper 1lower 1upper 1lower 1upper 1lower 1upper " ++
  "1lower 1upper 1lower 1upper 1lower 1upper 1lower 1upper 1lower 1upper 1lower 1upper 1lower " ++
  "1upper 1lower 1upper 1lower 1upper 1lower 1upper 1lower 1upper 1lower 1upper 1lower 1upper " ++
  "1lower 1upper 1lower 1upper 1lower 1upper 1lower 1upper 1lower 1upper 1lower 1upper 1lower " ++
  "1upper 1lower 1upper 1lower 1upper 7lower 2upper 1lower 2upper 2lower 1upper 1lower 4upper " ++
  "1lower 1upper 1lower 1upper 1lower 1upper 1lower 1upper 69lower 1oletter 36lower 7oletter " ++
  "2lower 4 12oletter 14 5lower 7 1oletter 1 1oletter 17 112extend 1upper 1lower 1upper 1lower " ++
  "1oletter 1 1upper 1lower 2 4lower 1scontinue 1upper 6 1upper 1 3upper 1 1upper 1 2upper " ++
  "1lower 17upper 1 9upper 35lower 1upper 2lower 3upper 3lower 1upper 1lower 1upper 1lower " ++
  "1upper 1lower 1upper 1lower 1upper 1lower 1upper 1lower 1upper 1lower 1upper 1lower 1upper " ++
  "1lower 1upper 1lower 1upper 1lower 1upper 5lower 1upper 1lower 1 1upper 1lower 2upper 2lower " ++
  "51upper 48lower 1upper 1lower 1upper 1lower 1upper 1lower 1upper 1lower 1upper 1lower 1upper " ++
  "1lower 1upper 1lower 1upper 1lower 1upper 1lower 1upper 1lower 1upper 1lower 1upper 1lower " ++
  "1upper 1lower 1upper 1lower 1upper 1lower 1upper 1lower 1upper 1lower 1 7extend 1upper " ++
  "1lower 1upper 1lower 1upper 1lower 1upper 1lower 1upper 1lower 1upper 1lower 1upper 1lower " ++
  "1upper 1lower 1upper 1lower 1upper 1lower 1upper 1lower 1upper 1lower 1upper 1lower 1upper " ++
  "1lower 1upper 1lower 1upper 1lower 1upper 1lower 1upper 1lower 1upper 1lower 1upper 1lower " ++
  "1upper 1lower 1upper 1lower 1upper 1lower 1upper 1lower 1upper 1lower 1upper 1lower 1upper " ++
  "1lower 2upper 1lower 1upper 1lower 1upper 1lower 1upper 1lower 1upper 1lower 1upper 1lower " ++
  "1upper 2lower 1upper 1lower 1upper 1lower 1upper 1lower 1upper 1lower 1upper 1lower 1upper " ++
  "1lower 1upper 1lower 1upper 1lower 1upper 1lower 1upper 1lower 1upper 1lower 1upper 1lower " ++
  "1upper 1lower 1upper 1lower 1upper 1lower 1upper 1lower 1upper 1lower 1upper 1lower 1upper " ++
  "1lower 1upper 1lower 1upper 1lower 1upper 1lower 1upper 1lower 1upper 1lower 1upper 1lower " ++
  "1upper 1lower 1upper 1lower 1upper 1lower 1upper 1lower 1upper 1lower 1upper 1lower 1upper " ++
  "1lower 1upper 1lower 1upper 1lower 1upper 1lower 1upper 1lower 1upper 1lower 1upper 1lower " ++
  "1upper 1lower 1upper 1lower 1upper 1lower 1upper 1lower 1upper 1lower 1upper 1lower 1upper " ++
  "1lower 1upper 1lower 1upper 1lower 1upper 1lower 1 38upper 2 1oletter 3 1scontinue 2 41lower " ++
  "1sterm 7 45extend 1 1extend 1 2extend 1 2extend 1 1extend 8 27oletter 4 5oletter 12 6numeric " ++
  "6 2scontinue 2 11extend 1 1format 3sterm 43oletter 21extend 10numeric 1 2numeric 1 2oletter " ++
  "1extend 99oletter 1sterm 1oletter 7extend 1numeric 1 6extend 2oletter 2extend 1 4extend " ++
  "2oletter 10numeric 3oletter 2 1oletter 3sterm 12 1format 1oletter 1extend 30oletter 27extend " ++
  "2 89oletter 11extend 1oletter 14 10numeric 33oletter 9extend 2oletter 2 1scontinue 1sterm " ++
  "1oletter 2 1extend 2 22oletter 4extend 1oletter 9extend 1oletter 3extend 1oletter 5extend 9 " ++
  "1sterm 1 1sterm 3 2sterm 1 25oletter 3extend 4 11oletter 5 24oletter 1 6oletter 1 2numeric 5 " ++
  "9extend 42oletter 24extend 1numeric 33extend 54oletter 3extend 1oletter 18extend 1oletter " ++
  "7extend 10oletter 2extend 2sterm 10numeric 1 16oletter 3extend 1 8oletter 2 2oletter 2 " ++
  "22oletter 1 7oletter 1 1oletter 3 4oletter 2 1extend 1oletter 7extend 2 2extend 2 3extend " ++
  "1oletter 8 1extend 4 2oletter 1 3oletter 2extend 2 10numeric 2oletter 10 1oletter 1 1extend " ++
  "2 3extend 1 6oletter 4 2oletter 2 22oletter 1 7oletter 1 2oletter 1 2oletter 1 2oletter 2 " ++
  "1extend 1 5extend 4 2extend 2 3extend 3 1extend 7 4oletter 1 1oletter 7 10numeric 2extend " ++
  "3oletter 1extend 11 3extend 1 9oletter 1 3oletter 1 22oletter 1 7oletter 1 2oletter 1 " ++
  "5oletter 2 1extend 1oletter 8extend 1 3extend 1 3extend 2 1oletter 15 2oletter 2extend 2 " ++
  "10numeric 9 1oletter 6extend 1 3extend 1 8oletter 2 2oletter 2 22oletter 1 7oletter 1 " ++
  "2oletter 1 5oletter 2 1extend 1oletter 7extend 2 2extend 2 3extend 7 3extend 4 2oletter 1 " ++
  "3oletter 2extend 2 10numeric 1 1oletter 16 1extend 1oletter 1 6oletter 3 3oletter 1 4oletter " ++
  "3 2oletter 1 1oletter 1 2oletter 3 2oletter 3 3oletter 3 12oletter 4 5extend 3 3extend 1 " ++
  "4extend 2 1oletter 6 1extend 14 10numeric 16 5extend 8oletter 1 3oletter 1 23oletter 1 " ++
  "16oletter 2 1extend 1oletter 7extend 1 3extend 1 4extend 7 2extend 1 3oletter 2 1oletter 2 " ++
  "2oletter 2extend 2 10numeric 16 1oletter 3extend 1 8oletter 1 3oletter 1 23oletter 1 " ++
  "10oletter 1 5oletter 2 1extend 1oletter 7extend 1 3extend 1 4extend 7 2extend 6 2oletter 1 " ++
  "2oletter 2extend 2 10numeric 1 2oletter 1extend 12 4extend 9oletter 1 3oletter 1 41oletter " ++
  "2extend 1oletter 7extend 1 3extend 1 4extend 1oletter 5 3oletter 1extend 7 3oletter 2extend " ++
  "2 10numeric 10 6oletter 1 3extend 1 18oletter 3 24oletter 1 9oletter 1 1oletter 2 7oletter 3 " ++
  "1extend 4 6extend 1 1extend 1 8extend 6 10numeric 2 2extend 13 48oletter 1extend 2oletter " ++
  "7extend 5 7oletter 8extend 1 10numeric 39 2oletter 1 1oletter 1 5oletter 1 24oletter 1 " ++
  "1oletter 1 10oletter 1extend 2oletter 9extend 1oletter 2 5oletter 1 1oletter 1 7extend 1 " ++
  "10numeric 2 4oletter 32 1oletter 23 2extend 6 10numeric 11 1extend 1 1extend 1 1extend " ++
  "4close 2extend 8oletter 1 36oletter 4 20extend 1 2extend 5oletter 11extend 1 36extend 9 " ++
  "1extend 57 43oletter 20extend 1oletter 10numeric 2sterm 4 6oletter 4extend 4oletter 3extend " ++
  "1oletter 3extend 2oletter 7extend 3oletter 4extend 13oletter 12extend 1oletter 1extend " ++
  "10numeric 4extend 2 38upper 1 1upper 5 1upper 2 43oletter 1 1lower 332oletter 1 4oletter 2 " ++
  "7oletter 1 1oletter 1 4oletter 2 41oletter 1 4oletter 2 33oletter 1 4oletter 2 7oletter 1 " ++
  "1oletter 1 4oletter 2 15oletter 1 57oletter 1 4oletter 2 67oletter 2 3extend 2 1sterm 4 " ++
  "2sterm 23 16oletter 16 86upper 2 6lower 3 620oletter 1 1sterm 17oletter 1sp 26oletter 2close " ++
  "3 75oletter 3 11oletter 7 18oletter 4extend 9 19oletter 3extend 2sterm 9 18oletter 2extend " ++
  "12 13oletter 1 3oletter 1 2extend 12 52oletter 32extend 2sterm 1 1oletter 4 1oletter 1extend " ++
  "2 10numeric 24 1scontinue 1sterm 4 1scontinue 1sterm 1 3extend 1format 1extend 10numeric 6 " ++
  "89oletter 7 5oletter 2extend 34oletter 1extend 1oletter 5 70oletter 10 31oletter 1 12extend " ++
  "4 12extend 8 2sterm 10numeric 30oletter 2 5oletter 11 44oletter 4 26oletter 6 11numeric 37 " ++
  "23oletter 5extend 4 53oletter 10extend 1 29extend 2 1extend 10numeric 6 10numeric 13 " ++
  "1oletter 4sterm 4 31extend 49 5extend 47oletter 17extend 8oletter 1 2sterm 10numeric 2sterm " ++
  "2 2sterm 11 9extend 9 3sterm 3extend 30oletter 13extend 2oletter 10numeric 44oletter " ++
  "14extend 12 36oletter 20extend 3 2sterm 3 10numeric 3 3oletter 10numeric 36oletter 2sterm " ++
  "9lower 1upper 1lower 5 43oletter 2 3oletter 16 3extend 1 21extend 4oletter 1extend 6oletter " ++
  "1extend 2oletter 3extend 1oletter 5 192lower 64extend 1upper 1lower 1upper 1lower 1upper " ++
  "1lower 1upper 1lower 1upper 1lower 1upper 1lower 1upper 1lower 1upper 1lower 1upper 1lower " ++
  "1upper 1lower 1upper 1lower 1upper 1lower 1upper 1lower 1upper 1lower 1upper 1lower 1upper " ++
  "1lower 1upper 1lower 1upper 1lower 1upper 1lower 1upper 1lower 1upper 1lower 1upper 1lower " ++
  "1upper 1lower 1upper 1lower 1upper 1lower 1upper 1lower 1upper 1lower 1upper 1lower 1upper " ++
  "1lower 1upper 1lower 1upper 1lower 1upper 1lower 1upper 1lower 1upper 1lower 1upper 1lower " ++
  "1upper 1lower 1upper 1lower 1upper 1lower 1upper 1lower 1upper 1lower 1upper 1lower 1upper " ++
  "1lower 1upper 1lower 1upper 1lower 1upper 1lower 1upper 1lower 1upper 1lower 1upper 1lower " ++
  "1upper 1lower 1upper 1lower 1upper 1lower 1upper 1lower 1upper 1lower 1upper 1lower 1upper " ++
  "1lower 1upper 1lower 1upper 1lower 1upper 1lower 1upper 1lower 1upper 1lower 1upper 1lower " ++
  "1upper 1lower 1upper 1lower 1upper 1lower 1upper 1lower 1upper 1lower 1upper 1lower 1upper " ++
  "1lower 1upper 1lower 1upper 1lower 1upper 1lower 1upper 1lower 1upper 1lower 1upper 1lower " ++
  "1upper 9lower 1upper 1lower 1upper 1lower 1upper 1lower 1upper 1lower 1upper 1lower 1upper " ++
  "1lower 1upper 1lower 1upper 1lower 1upper 1lower 1upper 1lower 1upper 1lower 1upper 1lower " ++
  "1upper 1lower 1upper 1lower 1upper 1lower 1upper 1lower 1upper 1lower 1upper 1lower 1upper " ++
  "1lower 1upper 1lower 1upper 1lower 1upper 1lower 1upper 1lower 1upper 1lower 1upper 1lower " ++
  "1upper 1lower 1upper 1lower 1upper 1lower 1upper 1lower 1upper 1lower 1upper 1lower 1upper " ++
  "1lower 1upper 1lower 1upper 1lower 1upper 1lower 1upper 1lower 1upper 1lower 1upper 1lower " ++
  "1upper 1lower 1upper 1lower 1upper 1lower 1upper 1lower 1upper 1lower 1upper 1lower 1upper " ++
  "1lower 1upper 1lower 1upper 1lower 1upper 1lower 1upper 9lower 8upper 6lower 2 6upper 2 " ++
  "8lower 8upper 8lower 8upper 6lower 2 6upper 2 8lower 1 1upper 1 1upper 1 1upper 1 1upper " ++
  "8lower 8upper 14lower 2 8lower 8upper 8lower 8upper 8lower 8upper 5lower 1 2lower 5upper 1 " ++
  "1lower 3 3lower 1 2lower 5upper 3 4lower 2 2lower 4upper 4 8lower 5upper 5 3lower 1 2lower " ++
  "5upper 3 11sp 1format 2extend 2format 3 2scontinue 3 8close 4 1aterm 3 2sep 5format 1sp 9 " ++
  "2close 1 2sterm 7 2close 3sterm 21 1sp 5format 1 10format 1 1lower 11 2close 1lower 13 " ++
  "2close 1 13lower 51 33extend 17 1upper 4 1upper 2 1lower 3upper 2lower 3upper 1lower 1 " ++
  "1upper 3 5upper 6 1upper 1 1upper 1 1upper 1 4upper 1 1lower 4upper 1lower 4oletter 1lower 2 " ++
  "2lower 2upper 5 1upper 4lower 4 1lower 17 16upper 16lower 3oletter 1upper 1lower 4oletter " ++
  "383 4close 29 2close 395 26upper 26lower 625 6close 7 14close 79 2close 31 10close 403 " ++
  "22close 63 4close 32 2close 514 48upper 48lower 1upper 1lower 3upper 2lower 1upper 1lower " ++
  "1upper 1lower 1upper 1lower 4upper 1lower 1upper 2lower 1upper 8lower 3upper 1lower 1upper " ++
  "1lower 1upper 1lower 1upper 1lower 1upper 1lower 1upper 1lower 1upper 1lower 1upper 1lower " ++
  "1upper 1lower 1upper 1lower 1upper 1lower 1upper 1lower 1upper 1lower 1upper 1lower 1upper " ++
  "1lower 1upper 1lower 1upper 1lower 1upper 1lower 1upper 1lower 1upper 1lower 1upper 1lower " ++
  "1upper 1lower 1upper 1lower 1upper 1lower 1upper 1lower 1upper 1lower 1upper 1lower 1upper " ++
  "1lower 1upper 1lower 1upper 1lower 1upper 1lower 1upper 1lower 1upper 1lower 1upper 1lower " ++
  "1upper 1lower 1upper 1lower 1upper 1lower 1upper 1lower 1upper 1lower 1upper 1lower 1upper " ++
  "1lower 1upper 1lower 1upper 1lower 1upper 1lower 1upper 1lower 1upper 1lower 1upper 1lower " ++
  "1upper 1lower 1upper 1lower 1upper 2lower 6 1upper 1lower 1upper 1lower 3extend 1upper " ++
  "1lower 5 3sterm 4 38lower 1 1lower 5 1lower 2 56oletter 7 1oletter 15 1extend 23oletter 9 " ++
  "7oletter 1 7oletter 1 7oletter 1 7oletter 1 7oletter 1 7oletter 1 7oletter 1 7oletter 1 " ++
  "32extend 14close 14 2close 2 10close 4 1sterm 1oletter 12 1sterm 5 1close 16 2sterm 8close " ++
  "419 1sp 1scontinue 1sterm 2 3oletter 10close 2 8close 1 3close 1 9oletter 6extend 1 5oletter " ++
  "2 5oletter 4 86oletter 2 2extend 2 3oletter 1 90oletter 1 4oletter 5 43oletter 1 94oletter " ++
  "17 32oletter 48 16oletter 512 6592oletter 64 22157oletter 67 46oletter 1 1sterm 269oletter 1 " ++
  "2sterm 16oletter 10numeric 2oletter 20 1upper 1lower 1upper 1lower 1upper 1lower 1upper " ++
  "1lower 1upper 1lower 1upper 1lower 1upper 1lower 1upper 1lower 1upper 1lower 1upper 1lower " ++
  "1upper 1lower 1upper 1lower 1upper 1lower 1upper 1lower 1upper 1lower 1upper 1lower 1upper " ++
  "1lower 1upper 1lower 1upper 1lower 1upper 1lower 1upper 1lower 1upper 1lower 1upper 1lower " ++
  "1oletter 4extend 1 10extend 1 1oletter 1upper 1lower 1upper 1lower 1upper 1lower 1upper " ++
  "1lower 1upper 1lower 1upper 1lower 1upper 1lower 1upper 1lower 1upper 1lower 1upper 1lower " ++
  "1upper 1lower 1upper 1lower 1upper 1lower 1upper 3lower 2extend 80oletter 2extend 1 1sterm 3 " ++
  "1sterm 31 9oletter 2 1upper 1lower 1upper 1lower 1upper 1lower 1upper 1lower 1upper 1lower " ++
  "1upper 1lower 1upper 3lower 1upper 1lower 1upper 1lower 1upper 1lower 1upper 1lower 1upper " ++
  "1lower 1upper 1lower 1upper 1lower 1upper 1lower 1upper 1lower 1upper 1lower 1upper 1lower " ++
  "1upper 1lower 1upper 1lower 1upper 1lower 1upper 1lower 1upper 1lower 1upper 1lower 1upper " ++
  "1lower 1upper 1lower 1upper 1lower 1upper 1lower 1upper 1lower 1upper 1lower 1upper 1lower " ++
  "1upper 1lower 1upper 1lower 1upper 1lower 1upper 1lower 1upper 1lower 1upper 1lower 1upper " ++
  "10lower 1upper 1lower 1upper 1lower 2upper 1lower 1upper 1lower 1upper 1lower 1upper 1lower " ++
  "1upper 1lower 1oletter 2 1upper 1lower 1upper 1lower 1oletter 1upper 1lower 1upper 3lower " ++
  "1upper 1lower 1upper 1lower 1upper 1lower 1upper 1lower 1upper 1lower 1upper 1lower 1upper " ++
  "1lower 1upper 1lower 1upper 1lower 1upper 1lower 5upper 1lower 5upper 1lower 1upper 1lower " ++
  "1upper 1lower 1upper 1lower 1upper 1lower 1upper 1lower 1upper 1lower 1upper 1lower 4upper " ++
  "1lower 1upper 1lower 2upper 1lower 2 1upper 1lower 1 1lower 1 1lower 1upper 1lower 1upper " ++
  "1lower 1upper 1lower 1upper 21 3lower 1upper 1lower 1oletter 3lower 7oletter 1extend " ++
  "3oletter 1extend 4oletter 1extend 23oletter 5extend 4 1extend 19 52oletter 2 2sterm 8 " ++
  "2extend 50oletter 18extend 8 2sterm 10numeric 6 18extend 6oletter 3 1oletter 1 2oletter " ++
  "1extend 10numeric 28oletter 8extend 1 1sterm 23oletter 13extend 12 29oletter 3 4extend " ++
  "47oletter 14extend 7 2sterm 5 1oletter 10numeric 6 5oletter 1extend 10oletter 10numeric " ++
  "5oletter 1 41oletter 14extend 9 3oletter 1extend 8oletter 2extend 2 10numeric 3 3sterm " ++
  "23oletter 3 1oletter 3extend 50oletter 1extend 1oletter 3extend 2oletter 2extend 5oletter " ++
  "2extend 1oletter 1extend 1oletter 24 3oletter 2 11oletter 5extend 2sterm 3oletter 2extend 10 " ++
  "6oletter 2 6oletter 2 6oletter 9 7oletter 1 7oletter 1 43lower 1 14lower 6 80lower 35oletter " ++
  "8extend 1sterm 2extend 2 10numeric 6 11172oletter 12 23oletter 4 49oletter 8452 366oletter 2 " ++
  "106oletter 38 7lower 12 5lower 5 1oletter 1extend 10oletter 1 13oletter 1 5oletter 1 " ++
  "1oletter 1 2oletter 1 2oletter 1 108oletter 33 363oletter 2close 16 64oletter 2 54oletter 40 " ++
  "12oletter 4 16extend 2scontinue 1sterm 2scontinue 2sterm 2close 7 16extend 1 2scontinue 2 " ++
  "16close 2 2close 7 2scontinue 1aterm 1 2scontinue 2sterm 1scontinue 6close 4 1scontinue 12 " ++
  "5oletter 1 135oletter 2 1format 1 1sterm 6 2close 2 2scontinue 1aterm 1 10numeric 2scontinue " ++
  "3 1sterm 1 26upper 1close 1 1close 3 26lower 1close 1 1close 1 2close 1sterm 2close " ++
  "1scontinue 1 56oletter 2extend 31oletter 3 6oletter 2 6oletter 2 6oletter 2 3oletter 28 " ++
  "3format 4 12oletter 1 26oletter 1 19oletter 1 2oletter 1 15oletter 2 14oletter 34 123oletter " ++
  "69 53oletter 136 1extend 130 29oletter 3 49oletter 15 1extend 31 32oletter 13 30oletter 5 " ++
  "38oletter 5extend 5 30oletter 2 36oletter 4 8oletter 1 5oletter 42 40upper 40lower 78oletter " ++
  "2 10numeric 6 36upper 4 36lower 4 40oletter 8 52oletter 12 11upper 1 15upper 1 7upper 1 " ++
  "2upper 1 11lower 1 15lower 1 7lower 1 2lower 3 52oletter 12 311oletter 9 22oletter 10 " ++
  "8oletter 24 1lower 2oletter 3lower 1 42lower 1 9lower 69 6oletter 2 1oletter 1 44oletter 1 " ++
  "2oletter 3 1oletter 2 23oletter 10 23oletter 9 31oletter 65 19oletter 1 2oletter 10 " ++
  "22oletter 10 26oletter 70 56oletter 6 2oletter 64 1oletter 3extend 1 2extend 5 4extend " ++
  "4oletter 1 3oletter 1 29oletter 2 3extend 4 1extend 22 2sterm 8 29oletter 3 29oletter 35 " ++
  "8oletter 1 28oletter 2extend 25 54oletter 10 22oletter 10 19oletter 13 18oletter 110 " ++
  "73oletter 55 51upper 13 51lower 13 36oletter 4extend 8 10numeric 6 10numeric 6oletter " ++
  "22upper 3 5extend 1 1oletter 22lower 250 42oletter 1 2extend 3 2oletter 16 3oletter 55 " ++
  "4extend 29oletter 10 1oletter 8 22oletter 11extend 4 5sterm 22 18oletter 4extend 4sterm 38 " ++
  "21oletter 27 23oletter 9 3extend 53oletter 15extend 2sterm 29 10numeric 1extend 2oletter " ++
  "2extend 1oletter 9 4extend 45oletter 11extend 2 1numeric 4sterm 1extend 10 1numeric 2 " ++
  "25oletter 7 10numeric 6 3extend 36oletter 14extend 1 10numeric 1 3sterm 1oletter 2extend " ++
  "1oletter 8 35oletter 1extend 2 1oletter 9 3extend 48oletter 14extend 4oletter 2sterm 2 " ++
  "4extend 1sterm 2extend 10numeric 1oletter 1 1oletter 1 2sterm 32 18oletter 1 25oletter " ++
  "12extend 2sterm 1 2sterm 1 1extend 2oletter 1extend 62 7oletter 1 1oletter 1 4oletter 1 " ++
  "15oletter 1 10oletter 1sterm 6 47oletter 12extend 5 10numeric 6 4extend 1 8oletter 2 " ++
  "2oletter 2 22oletter 1 7oletter 1 2oletter 1 5oletter 1 2extend 1oletter 7extend 2 2extend 2 " ++
  "3extend 2 1oletter 6 1extend 5 5oletter 2extend 2 7extend 3 5extend 11 10oletter 1 1oletter " ++
  "2 1oletter 1 38oletter 1 1oletter 9extend 1 1extend 2 1extend 1 4extend 1 5extend 1oletter " ++
  "1extend 1oletter 2sterm 11 2extend 29 53oletter 18extend 4oletter 2sterm 3 10numeric 4 " ++
  "1extend 3oletter 30 48oletter 20extend 2oletter 1 1oletter 8 10numeric 166 47oletter 7extend " ++
  "2 9extend 1 2sterm 5 15sterm 4oletter 2extend 34 48oletter 17extend 2sterm 1 1oletter 11 " ++
  "10numeric 38 43oletter 13extend 1oletter 7 10numeric 6 20numeric 28 27oletter 2 15extend 4 " ++
  "10numeric 2 3sterm 1 7oletter 185 44oletter 15extend 101 32upper 32lower 10numeric 21 " ++
  "8oletter 2 1oletter 2 8oletter 1 2oletter 1 24oletter 6extend 1 2extend 2 4extend 1oletter " ++
  "1extend 1oletter 2extend 1sterm 1 1sterm 9 10numeric 70 8oletter 2 39oletter 7extend 2 " ++
  "7extend 1oletter 1 1oletter 1extend 27 1oletter 10extend 40oletter 7extend 1oletter 4extend " ++
  "3 2sterm 3 1extend 8 1oletter 11extend 46oletter 16extend 1 2sterm 1oletter 18 73oletter 199 " ++
  "33oletter 15 10numeric 6 9oletter 1 37oletter 8extend 1 8extend 1oletter 2sterm 13 10numeric " ++
  "24 30oletter 2 22extend 1 14extend 73 7oletter 1 2oletter 1 38oletter 6extend 3 1extend 1 " ++
  "2extend 1 7extend 1oletter 1extend 8 10numeric 6 6oletter 1 2oletter 1 32oletter 5extend 1 " ++
  "2extend 1 5extend 1oletter 7 10numeric 310 19oletter 4extend 2sterm 7 2extend 1oletter " ++
  "1extend 13oletter 1 34oletter 7extend 3 5extend 2sterm 11 10numeric 1extend 85 1oletter 79 " ++
  "922oletter 102 111oletter 17 196oletter 2636 97oletter 15 1072oletter 16format 1extend " ++
  "6oletter 15extend 10 3995oletter 5 583oletter 6841 30oletter 18extend 10numeric 1734 " ++
  "569oletter 7 31oletter 1 10numeric 4 2sterm 79oletter 1 10numeric 6 30oletter 2 5extend " ++
  "1sterm 10 48oletter 7extend 2sterm 7 4oletter 1sterm 11 10numeric 9 21oletter 5 19oletter " ++
  "432 45oletter 1 2sterm 10numeric 198 32upper 32lower 24 1sterm 103 75oletter 4 1extend " ++
  "1oletter 55extend 7 4extend 13oletter 64 2oletter 1 1oletter 1extend 11 2extend 14 " ++
  "6136oletter 8 1238oletter 41 10oletter 8935 4oletter 1 7oletter 1 2oletter 1 291oletter 15 " ++
  "1oletter 29 3oletter 2 1oletter 14 4oletter 8 396oletter 2308 107oletter 5 13oletter 3 " ++
  "9oletter 7 10oletter 3 2extend 1sterm 4format 4172 10numeric 518 46extend 2 23extend 542 " ++
  "5extend 3 6extend 8format 8extend 2 7extend 30 4extend 148 3extend 443 26upper 26lower " ++
  "26upper 7lower 1 18lower 26upper 26lower 1upper 1 2upper 2 1upper 2 2upper 2 4upper 1 8upper " ++
  "4lower 1 1lower 1 7lower 1 11lower 26upper 26lower 2upper 1 4upper 2 8upper 1 7upper 1 " ++
  "26lower 2upper 1 4upper 1 5upper 1 1upper 3 7upper 1 26lower 26upper 26lower 26upper 26lower " ++
  "26upper 26lower 26upper 26lower 26upper 26lower 26upper 28lower 2 25upper 1 25lower 1 6lower " ++
  "25upper 1 25lower 1 6lower 25upper 1 25lower 1 6lower 25upper 1 25lower 1 6lower 25upper 1 " ++
  "25lower 1 6lower 1upper 1lower 2 50numeric 512 55extend 4 50extend 8 1extend 14 1extend 3 " ++
  "1sterm 18 5extend 1 15extend 1104 10lower 1oletter 20lower 6 6lower 213 7extend 1 17extend 2 " ++
  "7extend 1 2extend 1 5extend 5 62lower 33 1extend 112 45oletter 3 7extend 7oletter 2 " ++
  "10numeric 4 1oletter 321 30oletter 1extend 17 44oletter 4extend 10numeric 470 28oletter " ++
  "4extend 10numeric 214 30oletter 2extend 1oletter 10numeric 485 7oletter 1 4oletter 1 " ++
  "2oletter 1 15oletter 1 197oletter 11 7extend 41 34upper 34lower 7extend 1oletter 4 10numeric " ++
  "1190 4oletter 1 27oletter 1 2oletter 1 1oletter 2 1oletter 1 10oletter 1 4oletter 1 1oletter " ++
  "1 1oletter 6 1oletter 4 1oletter 1 1oletter 1 1oletter 1 3oletter 1 2oletter 1 1oletter 2 " ++
  "1oletter 1 1oletter 1 1oletter 1 1oletter 1 1oletter 1 2oletter 1 1oletter 2 4oletter 1 " ++
  "7oletter 1 4oletter 1 4oletter 1 1oletter 1 10oletter 1 17oletter 5 3oletter 1 5oletter 1 " ++
  "17oletter 628 26upper 6 26upper 6 26upper 1260 3close 1399 10numeric 1030 42720oletter 32 " ++
  "4154oletter 6 222oletter 2 5762oletter 14 7473oletter 15 622oletter 2466 542oletter 1506 " ++
  "4939oletter 5 4192oletter 711761 1format 30 96extend 128 240extend 196112"

def graphemeBreaks : Partition := Partition.ofText graphemeText

def wordBreaks : Partition := Partition.ofText wordText

def sentenceBreaks : Partition := Partition.ofText sentenceText

namespace Segment

def breaks : Segment → Partition
  | grapheme => graphemeBreaks
  | word     => wordBreaks
  | sentence => sentenceBreaks

/-- The names of the classes, the full name of each first. -/
def breakNames : Segment → List (List String)
  | grapheme =>
    [["control", "cn"], ["cr"], ["extend", "ex"], ["l"], ["lf"], ["lv"], ["lvt"], ["prepend", "pp"],
     ["regionalindicator", "ri"], ["spacingmark", "sm"], ["t"], ["v"], ["zwj"]]
  | word =>
    [["aletter", "le"], ["cr"], ["doublequote", "dq"], ["extend"], ["extendnumlet", "ex"],
     ["format", "fo"], ["hebrewletter", "hl"], ["katakana", "ka"], ["lf"], ["midletter", "ml"],
     ["midnum", "mn"], ["midnumlet", "mb"], ["newline", "nl"], ["numeric", "nu"],
     ["regionalindicator", "ri"], ["singlequote", "sq"], ["wsegspace"], ["zwj"]]
  | sentence =>
    [["aterm", "at"], ["close", "cl"], ["cr"], ["extend", "ex"], ["format", "fo"], ["lf"],
     ["lower", "lo"], ["numeric", "nu"], ["oletter", "le"], ["scontinue", "sc"], ["sep", "se"],
     ["sp"], ["sterm", "st"], ["upper", "up"]]

/-- The full name of the class with a name in lower case without separators. -/
def breakName? (s : Segment) (name : String) : Option String :=
  (s.breakNames.find? (·.contains name)).bind (·.head?)

/-- The class of a character, empty if it has none. -/
def breakOf (s : Segment) (c : Char) : String := s.breaks.labelOf c.toNat

end Segment

end Unicode

end Daybook
