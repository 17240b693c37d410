/-!
# Properties of characters in names of hosts

The tables behind international names of hosts, for Unicode 17.0, written as numbers in hexadecimal
digits with blanks between them. They cover the whole code space from U+0000 on, run after run.

* `mapping` says what becomes of each code point. A run is its length and a rule: `0` kept, `2`
  refused, `1` dropped, `3` moved so that the first becomes the number that follows, `4` pairs of
  which each first becomes the second, `5` each replaced by the numbers that follow, up to a zero.
* `compositions` are triples: a character, and the two it is composed of.
* The others are pairs of a length and a value, right for the characters that are kept:
  `combining` the combining class, `marks` one for marks, `joining` how a letter joins its
  neighbours (`Joining`), `directions` its direction (`Direction`).
-/

namespace ContractQuery

namespace Idna

namespace Tables

/-- What becomes of each code point. -/
def mapping : String := "
41 0 1a 3 61 25 0 20 2 1 3 20 7 0 1 5 20 308 0 1 0 1 3 61 2 0 1 1 1 0 1 5 20 304 0 2 0 2 3 32 1 5
20 301 0 1 3 3bc 2 0 1 5 20 327 0 1 3 31 1 3 6f 1 0 1 5 31 2044 34 0 1 5 31 2044 32 0 1 5 33 2044
34 0 1 0 17 3 e0 1 0 7 3 f8 21 0 30 4 1 5 69 307 0 1 0 2 5 69 6a 0 4 4 1 0 6 4 2 5 6c b7 0 8 4 1 5
2bc 6e 0 2e 4 1 3 ff 6 4 1 3 73 1 0 1 3 253 4 4 1 3 254 2 4 2 3 256 2 4 1 0 1 3 1dd 1 3 259 1 3
25b 2 4 1 3 260 1 3 263 1 0 1 3 269 1 3 268 2 4 2 0 1 3 26f 1 3 272 1 0 1 3 275 6 4 1 3 280 2 4 1
3 283 2 0 2 4 1 3 288 2 4 2 3 28a 4 4 1 3 292 2 4 2 0 2 4 6 0 3 5 64 17e 0 3 5 6c 6a 0 3 5 6e 6a 0
10 4 1 0 12 4 1 0 3 5 64 7a 0 2 4 1 3 195 1 3 1bf 28 4 1 3 19e 1 0 12 4 6 0 1 3 2c65 2 4 1 3 19a 1
3 2c66 2 0 2 4 1 3 180 1 3 289 1 3 28c a 4 60 0 1 3 68 1 3 266 1 3 6a 1 3 72 1 3 279 1 3 27b 1 3
281 1 3 77 1 3 79 1f 0 1 5 20 306 0 1 5 20 307 0 1 5 20 30a 0 1 5 20 328 0 1 5 20 303 0 1 5 20 30b
0 2 0 1 3 263 1 3 6c 1 3 73 1 3 78 1 3 295 5b 0 2 3 300 1 0 1 3 313 1 5 308 301 0 1 3 3b9 9 0 1 1
20 0 4 4 1 3 2b9 1 0 2 4 2 2 1 5 20 3b9 0 3 0 1 3 3b 1 3 3f3 4 2 1 5 20 301 0 1 5 20 308 301 0 1 3
3ac 1 3 b7 3 3 3ad 1 2 1 3 3cc 1 2 2 3 3cd 1 0 11 3 3b1 1 2 9 3 3c3 23 0 1 3 3d7 1 3 3b2 1 3 3b8 1
3 3c5 1 3 3cd 1 3 3cb 1 3 3c6 1 3 3c0 1 0 18 4 1 3 3ba 1 3 3c1 1 3 3c3 1 0 1 3 3b8 1 3 3b5 1 0 2 4
1 3 3c3 2 4 1 0 3 3 37b 10 3 450 20 3 430 30 0 22 4 8 0 36 4 1 3 4cf e 4 1 0 60 4 1 2 26 3 561 2 2
2e 0 1 5 565 582 0 3 0 2 2 3 0 1 2 37 0 8 2 1b 0 4 2 6 0 11 2 16 0 1 2 58 0 1 5 627 674 0 1 5 648
674 0 1 5 6c7 674 0 1 5 64a 674 0 64 0 1 2 30 0 2 2 3b 0 2 2 65 0 e 2 3b 0 2 2 31 0 2 2 f 0 1 2 1c
0 2 2 1 0 1 2 b 0 5 2 20 0 7 2 4b 0 1 2 75 0 1 5 915 93c 0 1 5 916 93c 0 1 5 917 93c 0 1 5 91c 93c
0 1 5 921 93c 0 1 5 922 93c 0 1 5 92b 93c 0 1 5 92f 93c 0 24 0 1 2 8 0 2 2 2 0 2 2 16 0 1 2 7 0 1
2 1 0 3 2 4 0 2 2 9 0 2 2 2 0 2 2 4 0 8 2 1 0 4 2 1 5 9a1 9bc 0 1 5 9a2 9bc 0 1 2 1 5 9af 9bc 0 4
0 2 2 19 0 2 2 3 0 1 2 6 0 4 2 2 0 2 2 16 0 1 2 7 0 1 2 1 0 1 5 a32 a3c 0 1 2 1 0 1 5 a38 a3c 0 1
2 2 0 2 2 1 0 1 2 5 0 4 2 2 0 2 2 3 0 3 2 1 0 7 2 1 5 a16 a3c 0 1 5 a17 a3c 0 1 5 a1c a3c 0 1 0 1
2 1 5 a2b a3c 0 7 2 11 0 a 2 3 0 1 2 9 0 1 2 3 0 1 2 16 0 1 2 7 0 1 2 2 0 1 2 5 0 2 2 a 0 1 2 3 0
1 2 3 0 2 2 1 0 f 2 4 0 2 2 c 0 7 2 7 0 1 2 3 0 1 2 8 0 2 2 2 0 2 2 16 0 1 2 7 0 1 2 2 0 1 2 5 0 2
2 9 0 2 2 2 0 2 2 3 0 7 2 3 0 4 2 1 5 b21 b3c 0 1 5 b22 b3c 0 1 2 5 0 2 2 12 0 a 2 2 0 1 2 6 0 3 2
3 0 1 2 4 0 3 2 2 0 1 2 1 0 1 2 2 0 3 2 2 0 3 2 3 0 3 2 c 0 4 2 5 0 3 2 3 0 1 2 4 0 2 2 1 0 6 2 1
0 e 2 15 0 5 2 d 0 1 2 3 0 1 2 17 0 1 2 10 0 2 2 9 0 1 2 3 0 1 2 4 0 7 2 2 0 1 2 3 0 1 2 2 0 2 2 4
0 2 2 a 0 7 2 16 0 1 2 3 0 1 2 17 0 1 2 a 0 1 2 5 0 2 2 9 0 1 2 3 0 1 2 4 0 7 2 2 0 5 2 3 0 1 2 4
0 2 2 a 0 1 2 3 0 c 2 d 0 1 2 3 0 1 2 33 0 1 2 3 0 1 2 6 0 4 2 10 0 2 2 1a 0 1 2 3 0 1 2 12 0 3 2
18 0 1 2 9 0 1 2 1 0 2 2 7 0 3 2 1 0 4 2 6 0 1 2 1 0 1 2 8 0 6 2 a 0 2 2 3 0 c 2 32 0 1 5 e4d e32
0 7 0 4 2 1d 0 25 2 2 0 1 2 1 0 1 2 5 0 1 2 18 0 1 2 1 0 1 2 c 0 1 5 ecd eb2 0 a 0 2 2 5 0 1 2 1 0
1 2 7 0 1 2 a 0 2 2 1 5 eab e99 0 1 5 eab ea1 0 2 0 20 2 c 0 1 3 f0b 36 0 1 5 f42 fb7 0 4 0 1 2 4
0 1 5 f4c fb7 0 4 0 1 5 f51 fb7 0 4 0 1 5 f56 fb7 0 4 0 1 5 f5b fb7 0 c 0 1 5 f40 fb5 0 3 0 4 2 2
0 1 5 f71 f72 0 1 0 1 5 f71 f74 0 1 5 fb2 f80 0 1 5 fb2 f71 f80 0 1 5 fb3 f80 0 1 5 fb3 f71 f80 0
7 0 1 5 f71 f80 0 11 0 1 5 f92 fb7 0 4 0 1 2 4 0 1 5 f9c fb7 0 4 0 1 5 fa1 fb7 0 4 0 1 5 fa6 fb7 0
4 0 1 5 fab fb7 0 c 0 1 5 f90 fb5 0 3 0 1 2 f 0 1 2 d 0 25 2 a0 0 26 3 2d00 1 2 1 3 2d27 5 2 1 3
2d2d 2 2 2c 0 1 3 10dc 62 0 2 1 e8 0 1 2 4 0 2 2 7 0 1 2 1 0 1 2 4 0 2 2 29 0 1 2 4 0 2 2 21 0 1 2
4 0 2 2 7 0 1 2 1 0 1 2 4 0 2 2 f 0 1 2 39 0 1 2 4 0 2 2 43 0 2 2 20 0 3 2 1a 0 6 2 56 0 2 2 6 3
13f0 2 2 280 0 1 2 1c 0 3 2 59 0 7 2 16 0 9 2 18 0 9 2 14 0 c 2 d 0 1 2 3 0 1 2 2 0 c 2 34 0 2 1
28 0 2 2 a 0 6 2 a 0 6 2 b 0 5 1 a 0 6 2 59 0 7 2 2b 0 5 2 46 0 a 2 1f 0 1 2 c 0 4 2 c 0 4 2 1 0 3
2 2a 0 2 2 5 0 b 2 2c 0 4 2 1a 0 6 2 b 0 3 2 3e 0 2 2 41 0 1 2 1d 0 2 2 b 0 6 2 a 0 6 2 e 0 2 2 2e
0 2 2 c 0 14 2 4d 0 1 2 a6 0 8 2 3c 0 3 2 f 0 3 2 33 0 1 3 432 1 3 434 1 3 43e 2 3 441 1 3 442 1 3
44a 1 3 463 1 3 a64b 2 4 5 2 2b 3 10d0 2 2 3 3 10fd 8 0 8 2 2b 0 5 2 2c 0 1 3 61 1 3 e6 1 3 62 1 0
2 3 64 1 3 1dd 8 3 67 1 0 1 3 6f 1 3 223 1 3 70 1 3 72 2 3 74 1 3 77 1 3 61 2 3 250 1 3 1d02 1 3
62 2 3 64 1 3 259 2 3 25b 1 3 67 1 0 1 3 6b 1 3 6d 1 3 14b 1 3 6f 1 3 254 2 3 1d16 1 3 70 2 3 74 1
3 1d1d 1 3 26f 1 3 76 1 3 1d25 3 3 3b2 2 3 3c6 1 3 69 1 3 72 2 3 75 2 3 3b2 1 3 3c1 2 3 3c6 d 0 1
3 43d 22 0 1 3 252 1 3 63 1 3 255 1 3 f0 1 3 25c 1 3 66 1 3 25f 1 3 261 1 3 265 3 3 268 1 3 1d7b 1
3 29d 1 3 26d 1 3 1d85 1 3 29f 1 3 271 1 3 270 4 3 272 1 3 278 2 3 282 1 3 1ab 2 3 289 1 3 1d1c 2
3 28b 1 3 7a 3 3 290 1 3 3b8 40 0 96 4 4 0 1 5 61 2be 0 1 3 1e61 2 0 1 3 df 1 0 60 4 8 0 8 3 1f00
6 0 2 2 6 3 1f10 2 2 8 0 8 3 1f20 8 0 8 3 1f30 6 0 2 2 6 3 1f40 2 2 8 0 1 2 1 3 1f51 1 2 1 3 1f53
1 2 1 3 1f55 1 2 1 3 1f57 8 0 8 3 1f60 1 0 1 3 3ac 1 0 1 3 3ad 1 0 1 3 3ae 1 0 1 3 3af 1 0 1 3 3cc
1 0 1 3 3cd 1 0 1 3 3ce 2 2 1 5 1f00 3b9 0 1 5 1f01 3b9 0 1 5 1f02 3b9 0 1 5 1f03 3b9 0 1 5 1f04
3b9 0 1 5 1f05 3b9 0 1 5 1f06 3b9 0 1 5 1f07 3b9 0 1 5 1f00 3b9 0 1 5 1f01 3b9 0 1 5 1f02 3b9 0 1
5 1f03 3b9 0 1 5 1f04 3b9 0 1 5 1f05 3b9 0 1 5 1f06 3b9 0 1 5 1f07 3b9 0 1 5 1f20 3b9 0 1 5 1f21
3b9 0 1 5 1f22 3b9 0 1 5 1f23 3b9 0 1 5 1f24 3b9 0 1 5 1f25 3b9 0 1 5 1f26 3b9 0 1 5 1f27 3b9 0 1
5 1f20 3b9 0 1 5 1f21 3b9 0 1 5 1f22 3b9 0 1 5 1f23 3b9 0 1 5 1f24 3b9 0 1 5 1f25 3b9 0 1 5 1f26
3b9 0 1 5 1f27 3b9 0 1 5 1f60 3b9 0 1 5 1f61 3b9 0 1 5 1f62 3b9 0 1 5 1f63 3b9 0 1 5 1f64 3b9 0 1
5 1f65 3b9 0 1 5 1f66 3b9 0 1 5 1f67 3b9 0 1 5 1f60 3b9 0 1 5 1f61 3b9 0 1 5 1f62 3b9 0 1 5 1f63
3b9 0 1 5 1f64 3b9 0 1 5 1f65 3b9 0 1 5 1f66 3b9 0 1 5 1f67 3b9 0 2 0 1 5 1f70 3b9 0 1 5 3b1 3b9 0
1 5 3ac 3b9 0 1 2 1 0 1 5 1fb6 3b9 0 2 3 1fb0 1 3 1f70 1 3 3ac 1 5 3b1 3b9 0 1 5 20 313 0 1 3 3b9
1 5 20 313 0 1 5 20 342 0 1 5 20 308 342 0 1 5 1f74 3b9 0 1 5 3b7 3b9 0 1 5 3ae 3b9 0 1 2 1 0 1 5
1fc6 3b9 0 1 3 1f72 1 3 3ad 1 3 1f74 1 3 3ae 1 5 3b7 3b9 0 1 5 20 313 300 0 1 5 20 313 301 0 1 5
20 313 342 0 3 0 1 3 390 2 2 2 0 2 3 1fd0 1 3 1f76 1 3 3af 1 2 1 5 20 314 300 0 1 5 20 314 301 0 1
5 20 314 342 0 3 0 1 3 3b0 4 0 2 3 1fe0 1 3 1f7a 1 3 3cd 1 3 1fe5 1 5 20 308 300 0 1 5 20 308 301
0 1 3 60 2 2 1 5 1f7c 3b9 0 1 5 3c9 3b9 0 1 5 3ce 3b9 0 1 2 1 0 1 5 1ff6 3b9 0 1 3 1f78 1 3 3cc 1
3 1f7c 1 3 3ce 1 5 3c9 3b9 0 1 5 20 301 0 1 5 20 314 0 1 2 1 3 20 1 3 20 1 3 20 1 3 20 1 3 20 1 3
20 1 3 20 1 3 20 1 3 20 1 3 20 1 3 20 1 1 2 0 2 2 1 0 1 3 2010 5 0 1 5 20 333 0 c 0 3 2 1 0 7 2 1
3 20 3 0 1 5 2032 2032 0 1 5 2032 2032 2032 0 1 0 1 5 2035 2035 0 1 5 2035 2035 2035 0 4 0 1 5 21
21 0 1 0 1 5 20 305 0 8 0 1 5 3f 3f 0 1 5 3f 21 0 1 5 21 3f 0 d 0 1 5 2032 2032 2032 2032 0 7 0 1
3 20 5 1 5 2 6 1 1 3 30 1 3 69 2 2 6 3 34 1 3 2b 1 3 2212 1 3 3d 2 3 28 1 3 6e a 3 30 1 3 2b 1 3
2212 1 3 3d 2 3 28 1 2 1 3 61 1 3 65 1 3 6f 1 3 78 1 3 259 1 3 68 4 3 6b 1 3 70 2 3 73 3 2 8 0 1 5
72 73 0 19 0 e 2 21 0 f 2 1 5 61 2f 63 0 1 5 61 2f 73 0 1 3 63 1 5 b0 63 0 1 0 1 5 63 2f 6f 0 1 5
63 2f 75 0 1 3 25b 1 0 1 5 b0 66 0 2 3 67 1 3 68 1 3 68 1 3 68 1 3 127 1 3 69 1 3 69 1 3 6c 1 3 6c
1 0 1 3 6e 1 5 6e 6f 0 2 0 3 3 70 1 3 72 1 3 72 2 0 1 5 73 6d 0 1 5 74 65 6c 0 1 5 74 6d 0 1 0 1 3
7a 1 0 1 3 3c9 1 0 1 3 7a 1 0 1 3 6b 1 3 e5 2 3 62 1 0 1 3 65 2 3 65 1 3 214e 1 3 6d 1 3 6f 4 3
5d0 1 3 69 1 0 1 5 66 61 78 0 1 3 3c0 1 3 3b3 1 3 3b3 1 3 3c0 1 3 2211 4 0 1 3 64 2 3 64 2 3 69 6
0 1 5 31 2044 37 0 1 5 31 2044 39 0 1 5 31 2044 31 30 0 1 5 31 2044 33 0 1 5 32 2044 33 0 1 5 31
2044 35 0 1 5 32 2044 35 0 1 5 33 2044 35 0 1 5 34 2044 35 0 1 5 31 2044 36 0 1 5 35 2044 36 0 1 5
31 2044 38 0 1 5 33 2044 38 0 1 5 35 2044 38 0 1 5 37 2044 38 0 1 5 31 2044 0 1 3 69 1 5 69 69 0 1
5 69 69 69 0 1 5 69 76 0 1 3 76 1 5 76 69 0 1 5 76 69 69 0 1 5 76 69 69 69 0 1 5 69 78 0 1 3 78 1
5 78 69 0 1 5 78 69 69 0 1 3 6c 2 3 63 1 3 6d 1 3 69 1 5 69 69 0 1 5 69 69 69 0 1 5 69 76 0 1 3 76
1 5 76 69 0 1 5 76 69 69 0 1 5 76 69 69 69 0 1 5 69 78 0 1 3 78 1 5 78 69 0 1 5 78 69 69 0 1 3 6c
2 3 63 1 3 6d 3 0 2 4 4 0 1 5 30 2044 33 0 2 0 4 2 9c 0 1 5 222b 222b 0 1 5 222b 222b 222b 0 1 0 1
5 222e 222e 0 1 5 222e 222e 222e 0 f8 0 2 3 3008 ff 0 16 2 b 0 15 2 9 3 31 1 5 31 30 0 1 5 31 31 0
1 5 31 32 0 1 5 31 33 0 1 5 31 34 0 1 5 31 35 0 1 5 31 36 0 1 5 31 37 0 1 5 31 38 0 1 5 31 39 0 1
5 32 30 0 1 5 28 31 29 0 1 5 28 32 29 0 1 5 28 33 29 0 1 5 28 34 29 0 1 5 28 35 29 0 1 5 28 36 29
0 1 5 28 37 29 0 1 5 28 38 29 0 1 5 28 39 29 0 1 5 28 31 30 29 0 1 5 28 31 31 29 0 1 5 28 31 32 29
0 1 5 28 31 33 29 0 1 5 28 31 34 29 0 1 5 28 31 35 29 0 1 5 28 31 36 29 0 1 5 28 31 37 29 0 1 5 28
31 38 29 0 1 5 28 31 39 29 0 1 5 28 32 30 29 0 14 2 1 5 28 61 29 0 1 5 28 62 29 0 1 5 28 63 29 0 1
5 28 64 29 0 1 5 28 65 29 0 1 5 28 66 29 0 1 5 28 67 29 0 1 5 28 68 29 0 1 5 28 69 29 0 1 5 28 6a
29 0 1 5 28 6b 29 0 1 5 28 6c 29 0 1 5 28 6d 29 0 1 5 28 6e 29 0 1 5 28 6f 29 0 1 5 28 70 29 0 1 5
28 71 29 0 1 5 28 72 29 0 1 5 28 73 29 0 1 5 28 74 29 0 1 5 28 75 29 0 1 5 28 76 29 0 1 5 28 77 29
0 1 5 28 78 29 0 1 5 28 79 29 0 1 5 28 7a 29 0 1a 3 61 1a 3 61 1 3 30 521 0 1 5 222b 222b 222b
222b 0 67 0 1 5 3a 3a 3d 0 1 5 3d 3d 0 1 5 3d 3d 3d 0 65 0 1 5 2add 338 0 97 0 2 2 8a 0 30 3 2c30
30 0 2 4 1 3 26b 1 3 1d7d 1 3 27d 2 0 6 4 1 3 251 1 3 271 1 3 250 1 3 252 1 0 2 4 1 0 2 4 5 0 1 3
6a 1 3 76 2 3 23f 64 4 7 0 4 4 3 0 2 4 5 2 2d 0 1 2 1 0 5 2 1 0 2 2 38 0 7 2 1 3 2d61 1 0 e 2 18 0
9 2 7 0 1 2 7 0 1 2 7 0 1 2 7 0 1 2 7 0 1 2 7 0 1 2 7 0 1 2 7 0 1 2 7e 0 22 2 1a 0 1 2 4 0 1 3
6bcd 53 0 1 3 9f9f c 2 1 3 4e00 1 3 4e28 1 3 4e36 1 3 4e3f 1 3 4e59 1 3 4e85 1 3 4e8c 1 3 4ea0 1 3
4eba 1 3 513f 1 3 5165 1 3 516b 1 3 5182 1 3 5196 1 3 51ab 1 3 51e0 1 3 51f5 1 3 5200 1 3 529b 1 3
52f9 1 3 5315 1 3 531a 1 3 5338 1 3 5341 1 3 535c 1 3 5369 1 3 5382 1 3 53b6 1 3 53c8 1 3 53e3 1 3
56d7 1 3 571f 1 3 58eb 1 3 5902 1 3 590a 1 3 5915 1 3 5927 1 3 5973 1 3 5b50 1 3 5b80 1 3 5bf8 1 3
5c0f 1 3 5c22 1 3 5c38 1 3 5c6e 1 3 5c71 1 3 5ddb 1 3 5de5 1 3 5df1 1 3 5dfe 1 3 5e72 1 3 5e7a 1 3
5e7f 1 3 5ef4 1 3 5efe 1 3 5f0b 1 3 5f13 1 3 5f50 1 3 5f61 1 3 5f73 1 3 5fc3 1 3 6208 1 3 6236 1 3
624b 1 3 652f 1 3 6534 1 3 6587 1 3 6597 1 3 65a4 1 3 65b9 1 3 65e0 1 3 65e5 1 3 66f0 1 3 6708 1 3
6728 1 3 6b20 1 3 6b62 1 3 6b79 1 3 6bb3 1 3 6bcb 1 3 6bd4 1 3 6bdb 1 3 6c0f 1 3 6c14 1 3 6c34 1 3
706b 1 3 722a 1 3 7236 1 3 723b 1 3 723f 1 3 7247 1 3 7259 1 3 725b 1 3 72ac 1 3 7384 1 3 7389 1 3
74dc 1 3 74e6 1 3 7518 1 3 751f 1 3 7528 1 3 7530 1 3 758b 1 3 7592 1 3 7676 1 3 767d 1 3 76ae 1 3
76bf 1 3 76ee 1 3 77db 1 3 77e2 1 3 77f3 1 3 793a 1 3 79b8 1 3 79be 1 3 7a74 1 3 7acb 1 3 7af9 1 3
7c73 1 3 7cf8 1 3 7f36 1 3 7f51 1 3 7f8a 1 3 7fbd 1 3 8001 1 3 800c 1 3 8012 1 3 8033 1 3 807f 1 3
8089 1 3 81e3 1 3 81ea 1 3 81f3 1 3 81fc 1 3 820c 1 3 821b 1 3 821f 1 3 826e 1 3 8272 1 3 8278 1 3
864d 1 3 866b 1 3 8840 1 3 884c 1 3 8863 1 3 897e 1 3 898b 1 3 89d2 1 3 8a00 1 3 8c37 1 3 8c46 1 3
8c55 1 3 8c78 1 3 8c9d 1 3 8d64 1 3 8d70 1 3 8db3 1 3 8eab 1 3 8eca 1 3 8f9b 1 3 8fb0 1 3 8fb5 1 3
9091 1 3 9149 1 3 91c6 1 3 91cc 1 3 91d1 1 3 9577 1 3 9580 1 3 961c 1 3 96b6 1 3 96b9 1 3 96e8 1 3
9751 1 3 975e 1 3 9762 1 3 9769 1 3 97cb 1 3 97ed 1 3 97f3 1 3 9801 1 3 98a8 1 3 98db 1 3 98df 1 3
9996 1 3 9999 1 3 99ac 1 3 9aa8 1 3 9ad8 1 3 9adf 1 3 9b25 1 3 9b2f 1 3 9b32 1 3 9b3c 1 3 9b5a 1 3
9ce5 1 3 9e75 1 3 9e7f 1 3 9ea5 1 3 9ebb 1 3 9ec3 1 3 9ecd 1 3 9ed1 1 3 9ef9 1 3 9efd 1 3 9f0e 1 3
9f13 1 3 9f20 1 3 9f3b 1 3 9f4a 1 3 9f52 1 3 9f8d 1 3 9f9c 1 3 9fa0 2a 2 1 3 20 1 0 1 3 2e 33 0 1
3 3012 1 0 1 3 5341 2 3 5344 5 0 1 2 56 0 2 2 2 0 1 5 20 3099 0 1 5 20 309a 0 2 0 1 5 3088 308a 0
5f 0 1 5 30b3 30c8 0 5 2 2b 0 1 2 2 3 1100 1 3 11aa 1 3 1102 2 3 11ac 3 3 1103 6 3 11b0 1 3 111a 3
3 1106 1 3 1121 a 3 1109 15 3 1161 1 1 2 3 1114 2 3 11c7 1 3 11cc 1 3 11ce 1 3 11d3 1 3 11d7 1 3
11d9 1 3 111c 1 3 11dd 1 3 11df 2 3 111d 1 3 1120 2 3 1122 1 3 1127 1 3 1129 5 3 112b 1 3 1132 1 3
1136 1 3 1140 1 3 1147 1 3 114c 2 3 11f1 3 3 1157 2 3 1184 1 3 1188 2 3 1191 1 3 1194 1 3 119e 1 3
11a1 1 2 2 0 1 3 4e00 1 3 4e8c 1 3 4e09 1 3 56db 1 3 4e0a 1 3 4e2d 1 3 4e0b 1 3 7532 1 3 4e59 1 3
4e19 1 3 4e01 1 3 5929 1 3 5730 1 3 4eba 46 0 a 2 10 0 1 5 28 1100 29 0 1 5 28 1102 29 0 1 5 28
1103 29 0 1 5 28 1105 29 0 1 5 28 1106 29 0 1 5 28 1107 29 0 1 5 28 1109 29 0 1 5 28 110b 29 0 1 5
28 110c 29 0 1 5 28 110e 29 0 1 5 28 110f 29 0 1 5 28 1110 29 0 1 5 28 1111 29 0 1 5 28 1112 29 0
1 5 28 ac00 29 0 1 5 28 b098 29 0 1 5 28 b2e4 29 0 1 5 28 b77c 29 0 1 5 28 b9c8 29 0 1 5 28 bc14
29 0 1 5 28 c0ac 29 0 1 5 28 c544 29 0 1 5 28 c790 29 0 1 5 28 cc28 29 0 1 5 28 ce74 29 0 1 5 28
d0c0 29 0 1 5 28 d30c 29 0 1 5 28 d558 29 0 1 5 28 c8fc 29 0 1 5 28 c624 c804 29 0 1 5 28 c624
d6c4 29 0 1 2 1 5 28 4e00 29 0 1 5 28 4e8c 29 0 1 5 28 4e09 29 0 1 5 28 56db 29 0 1 5 28 4e94 29 0
1 5 28 516d 29 0 1 5 28 4e03 29 0 1 5 28 516b 29 0 1 5 28 4e5d 29 0 1 5 28 5341 29 0 1 5 28 6708
29 0 1 5 28 706b 29 0 1 5 28 6c34 29 0 1 5 28 6728 29 0 1 5 28 91d1 29 0 1 5 28 571f 29 0 1 5 28
65e5 29 0 1 5 28 682a 29 0 1 5 28 6709 29 0 1 5 28 793e 29 0 1 5 28 540d 29 0 1 5 28 7279 29 0 1 5
28 8ca1 29 0 1 5 28 795d 29 0 1 5 28 52b4 29 0 1 5 28 4ee3 29 0 1 5 28 547c 29 0 1 5 28 5b66 29 0
1 5 28 76e3 29 0 1 5 28 4f01 29 0 1 5 28 8cc7 29 0 1 5 28 5354 29 0 1 5 28 796d 29 0 1 5 28 4f11
29 0 1 5 28 81ea 29 0 1 5 28 81f3 29 0 1 3 554f 1 3 5e7c 1 3 6587 1 3 7b8f 8 0 1 5 70 74 65 0 1 5
32 31 0 1 5 32 32 0 1 5 32 33 0 1 5 32 34 0 1 5 32 35 0 1 5 32 36 0 1 5 32 37 0 1 5 32 38 0 1 5 32
39 0 1 5 33 30 0 1 5 33 31 0 1 5 33 32 0 1 5 33 33 0 1 5 33 34 0 1 5 33 35 0 1 3 1100 2 3 1102 3 3
1105 1 3 1109 2 3 110b 5 3 110e 1 3 ac00 1 3 b098 1 3 b2e4 1 3 b77c 1 3 b9c8 1 3 bc14 1 3 c0ac 1 3
c544 1 3 c790 1 3 cc28 1 3 ce74 1 3 d0c0 1 3 d30c 1 3 d558 1 5 cc38 ace0 0 1 5 c8fc c758 0 1 3
c6b0 1 0 1 3 4e00 1 3 4e8c 1 3 4e09 1 3 56db 1 3 4e94 1 3 516d 1 3 4e03 1 3 516b 1 3 4e5d 1 3 5341
1 3 6708 1 3 706b 1 3 6c34 1 3 6728 1 3 91d1 1 3 571f 1 3 65e5 1 3 682a 1 3 6709 1 3 793e 1 3 540d
1 3 7279 1 3 8ca1 1 3 795d 1 3 52b4 1 3 79d8 1 3 7537 1 3 5973 1 3 9069 1 3 512a 1 3 5370 1 3 6ce8
1 3 9805 1 3 4f11 1 3 5199 1 3 6b63 1 3 4e0a 1 3 4e2d 1 3 4e0b 1 3 5de6 1 3 53f3 1 3 533b 1 3 5b97
1 3 5b66 1 3 76e3 1 3 4f01 1 3 8cc7 1 3 5354 1 3 591c 1 5 33 36 0 1 5 33 37 0 1 5 33 38 0 1 5 33
39 0 1 5 34 30 0 1 5 34 31 0 1 5 34 32 0 1 5 34 33 0 1 5 34 34 0 1 5 34 35 0 1 5 34 36 0 1 5 34 37
0 1 5 34 38 0 1 5 34 39 0 1 5 35 30 0 1 5 31 6708 0 1 5 32 6708 0 1 5 33 6708 0 1 5 34 6708 0 1 5
35 6708 0 1 5 36 6708 0 1 5 37 6708 0 1 5 38 6708 0 1 5 39 6708 0 1 5 31 30 6708 0 1 5 31 31 6708
0 1 5 31 32 6708 0 1 5 68 67 0 1 5 65 72 67 0 1 5 65 76 0 1 5 6c 74 64 0 1 3 30a2 1 3 30a4 1 3
30a6 1 3 30a8 2 3 30aa 1 3 30ad 1 3 30af 1 3 30b1 1 3 30b3 1 3 30b5 1 3 30b7 1 3 30b9 1 3 30bb 1 3
30bd 1 3 30bf 1 3 30c1 1 3 30c4 1 3 30c6 1 3 30c8 6 3 30ca 1 3 30d2 1 3 30d5 1 3 30d8 1 3 30db 5 3
30de 1 3 30e4 1 3 30e6 6 3 30e8 4 3 30ef 1 5 4ee4 548c 0 1 5 30a2 30d1 30fc 30c8 0 1 5 30a2 30eb
30d5 30a1 0 1 5 30a2 30f3 30da 30a2 0 1 5 30a2 30fc 30eb 0 1 5 30a4 30cb 30f3 30b0 0 1 5 30a4 30f3
30c1 0 1 5 30a6 30a9 30f3 0 1 5 30a8 30b9 30af 30fc 30c9 0 1 5 30a8 30fc 30ab 30fc 0 1 5 30aa 30f3
30b9 0 1 5 30aa 30fc 30e0 0 1 5 30ab 30a4 30ea 0 1 5 30ab 30e9 30c3 30c8 0 1 5 30ab 30ed 30ea 30fc
0 1 5 30ac 30ed 30f3 0 1 5 30ac 30f3 30de 0 1 5 30ae 30ac 0 1 5 30ae 30cb 30fc 0 1 5 30ad 30e5
30ea 30fc 0 1 5 30ae 30eb 30c0 30fc 0 1 5 30ad 30ed 0 1 5 30ad 30ed 30b0 30e9 30e0 0 1 5 30ad 30ed
30e1 30fc 30c8 30eb 0 1 5 30ad 30ed 30ef 30c3 30c8 0 1 5 30b0 30e9 30e0 0 1 5 30b0 30e9 30e0 30c8
30f3 0 1 5 30af 30eb 30bc 30a4 30ed 0 1 5 30af 30ed 30fc 30cd 0 1 5 30b1 30fc 30b9 0 1 5 30b3 30eb
30ca 0 1 5 30b3 30fc 30dd 0 1 5 30b5 30a4 30af 30eb 0 1 5 30b5 30f3 30c1 30fc 30e0 0 1 5 30b7 30ea
30f3 30b0 0 1 5 30bb 30f3 30c1 0 1 5 30bb 30f3 30c8 0 1 5 30c0 30fc 30b9 0 1 5 30c7 30b7 0 1 5
30c9 30eb 0 1 5 30c8 30f3 0 1 5 30ca 30ce 0 1 5 30ce 30c3 30c8 0 1 5 30cf 30a4 30c4 0 1 5 30d1
30fc 30bb 30f3 30c8 0 1 5 30d1 30fc 30c4 0 1 5 30d0 30fc 30ec 30eb 0 1 5 30d4 30a2 30b9 30c8 30eb
0 1 5 30d4 30af 30eb 0 1 5 30d4 30b3 0 1 5 30d3 30eb 0 1 5 30d5 30a1 30e9 30c3 30c9 0 1 5 30d5
30a3 30fc 30c8 0 1 5 30d6 30c3 30b7 30a7 30eb 0 1 5 30d5 30e9 30f3 0 1 5 30d8 30af 30bf 30fc 30eb
0 1 5 30da 30bd 0 1 5 30da 30cb 30d2 0 1 5 30d8 30eb 30c4 0 1 5 30da 30f3 30b9 0 1 5 30da 30fc
30b8 0 1 5 30d9 30fc 30bf 0 1 5 30dd 30a4 30f3 30c8 0 1 5 30dc 30eb 30c8 0 1 5 30db 30f3 0 1 5
30dd 30f3 30c9 0 1 5 30db 30fc 30eb 0 1 5 30db 30fc 30f3 0 1 5 30de 30a4 30af 30ed 0 1 5 30de 30a4
30eb 0 1 5 30de 30c3 30cf 0 1 5 30de 30eb 30af 0 1 5 30de 30f3 30b7 30e7 30f3 0 1 5 30df 30af 30ed
30f3 0 1 5 30df 30ea 0 1 5 30df 30ea 30d0 30fc 30eb 0 1 5 30e1 30ac 0 1 5 30e1 30ac 30c8 30f3 0 1
5 30e1 30fc 30c8 30eb 0 1 5 30e4 30fc 30c9 0 1 5 30e4 30fc 30eb 0 1 5 30e6 30a2 30f3 0 1 5 30ea
30c3 30c8 30eb 0 1 5 30ea 30e9 0 1 5 30eb 30d4 30fc 0 1 5 30eb 30fc 30d6 30eb 0 1 5 30ec 30e0 0 1
5 30ec 30f3 30c8 30b2 30f3 0 1 5 30ef 30c3 30c8 0 1 5 30 70b9 0 1 5 31 70b9 0 1 5 32 70b9 0 1 5 33
70b9 0 1 5 34 70b9 0 1 5 35 70b9 0 1 5 36 70b9 0 1 5 37 70b9 0 1 5 38 70b9 0 1 5 39 70b9 0 1 5 31
30 70b9 0 1 5 31 31 70b9 0 1 5 31 32 70b9 0 1 5 31 33 70b9 0 1 5 31 34 70b9 0 1 5 31 35 70b9 0 1 5
31 36 70b9 0 1 5 31 37 70b9 0 1 5 31 38 70b9 0 1 5 31 39 70b9 0 1 5 32 30 70b9 0 1 5 32 31 70b9 0
1 5 32 32 70b9 0 1 5 32 33 70b9 0 1 5 32 34 70b9 0 1 5 68 70 61 0 1 5 64 61 0 1 5 61 75 0 1 5 62
61 72 0 1 5 6f 76 0 1 5 70 63 0 1 5 64 6d 0 1 5 64 6d 32 0 1 5 64 6d 33 0 1 5 69 75 0 1 5 5e73
6210 0 1 5 662d 548c 0 1 5 5927 6b63 0 1 5 660e 6cbb 0 1 5 682a 5f0f 4f1a 793e 0 1 5 70 61 0 1 5
6e 61 0 1 5 3bc 61 0 1 5 6d 61 0 1 5 6b 61 0 1 5 6b 62 0 1 5 6d 62 0 1 5 67 62 0 1 5 63 61 6c 0 1
5 6b 63 61 6c 0 1 5 70 66 0 1 5 6e 66 0 1 5 3bc 66 0 1 5 3bc 67 0 1 5 6d 67 0 1 5 6b 67 0 1 5 68
7a 0 1 5 6b 68 7a 0 1 5 6d 68 7a 0 1 5 67 68 7a 0 1 5 74 68 7a 0 1 5 3bc 6c 0 1 5 6d 6c 0 1 5 64
6c 0 1 5 6b 6c 0 1 5 66 6d 0 1 5 6e 6d 0 1 5 3bc 6d 0 1 5 6d 6d 0 1 5 63 6d 0 1 5 6b 6d 0 1 5 6d
6d 32 0 1 5 63 6d 32 0 1 5 6d 32 0 1 5 6b 6d 32 0 1 5 6d 6d 33 0 1 5 63 6d 33 0 1 5 6d 33 0 1 5 6b
6d 33 0 1 5 6d 2215 73 0 1 5 6d 2215 73 32 0 1 5 70 61 0 1 5 6b 70 61 0 1 5 6d 70 61 0 1 5 67 70
61 0 1 5 72 61 64 0 1 5 72 61 64 2215 73 0 1 5 72 61 64 2215 73 32 0 1 5 70 73 0 1 5 6e 73 0 1 5
3bc 73 0 1 5 6d 73 0 1 5 70 76 0 1 5 6e 76 0 1 5 3bc 76 0 1 5 6d 76 0 1 5 6b 76 0 1 5 6d 76 0 1 5
70 77 0 1 5 6e 77 0 1 5 3bc 77 0 1 5 6d 77 0 1 5 6b 77 0 1 5 6d 77 0 1 5 6b 3c9 0 1 5 6d 3c9 0 1 2
1 5 62 71 0 1 5 63 63 0 1 5 63 64 0 1 5 63 2215 6b 67 0 1 2 1 5 64 62 0 1 5 67 79 0 1 5 68 61 0 1
5 68 70 0 1 5 69 6e 0 1 5 6b 6b 0 1 5 6b 6d 0 1 5 6b 74 0 1 5 6c 6d 0 1 5 6c 6e 0 1 5 6c 6f 67 0 1
5 6c 78 0 1 5 6d 62 0 1 5 6d 69 6c 0 1 5 6d 6f 6c 0 1 5 70 68 0 1 2 1 5 70 70 6d 0 1 5 70 72 0 1 5
73 72 0 1 5 73 76 0 1 5 77 62 0 1 5 76 2215 6d 0 1 5 61 2215 6d 0 1 5 31 65e5 0 1 5 32 65e5 0 1 5
33 65e5 0 1 5 34 65e5 0 1 5 35 65e5 0 1 5 36 65e5 0 1 5 37 65e5 0 1 5 38 65e5 0 1 5 39 65e5 0 1 5
31 30 65e5 0 1 5 31 31 65e5 0 1 5 31 32 65e5 0 1 5 31 33 65e5 0 1 5 31 34 65e5 0 1 5 31 35 65e5 0
1 5 31 36 65e5 0 1 5 31 37 65e5 0 1 5 31 38 65e5 0 1 5 31 39 65e5 0 1 5 32 30 65e5 0 1 5 32 31
65e5 0 1 5 32 32 65e5 0 1 5 32 33 65e5 0 1 5 32 34 65e5 0 1 5 32 35 65e5 0 1 5 32 36 65e5 0 1 5 32
37 65e5 0 1 5 32 38 65e5 0 1 5 32 39 65e5 0 1 5 33 30 65e5 0 1 5 33 31 65e5 0 1 5 67 61 6c 0 708d
0 3 2 37 0 9 2 15c 0 14 2 2e 4 12 0 1c 4 1 3 44a 1 3 44c 5a 0 8 2 22 0 e 4 2 0 3e 4 1 3 a76f 8 0 4
4 1 3 1d79 a 4 3 0 2 4 1 3 265 2 0 4 4 2 0 14 4 1 3 266 1 3 25c 1 3 261 1 3 26c 1 3 26a 1 0 1 3
29e 1 3 287 1 3 29d 1 3 ab53 10 4 1 3 a794 1 3 282 1 3 1d8e 4 4 1 3 264 10 4 1 3 19b 14 2 1 3 73 1
3 63 1 3 66 1 3 71 2 4 1 0 1 3 127 1 3 153 33 0 3 2 a 0 6 2 38 0 8 2 46 0 8 2 c 0 6 2 74 0 b 2 1e
0 3 2 4e 0 1 2 b 0 4 2 21 0 1 2 37 0 9 2 e 0 2 2 a 0 2 2 67 0 18 2 1c 0 a 2 6 0 2 2 6 0 2 2 6 0 9
2 7 0 1 2 7 0 1 2 2c 0 1 3 a727 1 3 ab37 1 3 26b 1 3 ab52 9 0 1 3 28d 2 0 4 2 50 3 13a0 2e 0 2 2 a
0 6 2 2ba4 0 c 2 17 0 4 2 31 0 2104 2 1 3 8c48 1 3 66f4 1 3 8eca 1 3 8cc8 1 3 6ed1 1 3 4e32 1 3
53e5 1 3 9f9c 1 3 9f9c 1 3 5951 1 3 91d1 1 3 5587 1 3 5948 1 3 61f6 1 3 7669 1 3 7f85 1 3 863f 1 3
87ba 1 3 88f8 1 3 908f 1 3 6a02 1 3 6d1b 1 3 70d9 1 3 73de 1 3 843d 1 3 916a 1 3 99f1 1 3 4e82 1 3
5375 1 3 6b04 1 3 721b 1 3 862d 1 3 9e1e 1 3 5d50 1 3 6feb 1 3 85cd 1 3 8964 1 3 62c9 1 3 81d8 1 3
881f 1 3 5eca 1 3 6717 1 3 6d6a 1 3 72fc 1 3 90ce 1 3 4f86 1 3 51b7 1 3 52de 1 3 64c4 1 3 6ad3 1 3
7210 1 3 76e7 1 3 8001 1 3 8606 1 3 865c 1 3 8def 1 3 9732 1 3 9b6f 1 3 9dfa 1 3 788c 1 3 797f 1 3
7da0 1 3 83c9 1 3 9304 1 3 9e7f 1 3 8ad6 1 3 58df 1 3 5f04 1 3 7c60 1 3 807e 1 3 7262 1 3 78ca 1 3
8cc2 1 3 96f7 1 3 58d8 1 3 5c62 1 3 6a13 1 3 6dda 1 3 6f0f 1 3 7d2f 1 3 7e37 1 3 964b 1 3 52d2 1 3
808b 1 3 51dc 1 3 51cc 1 3 7a1c 1 3 7dbe 1 3 83f1 1 3 9675 1 3 8b80 1 3 62cf 1 3 6a02 1 3 8afe 1 3
4e39 1 3 5be7 1 3 6012 1 3 7387 1 3 7570 1 3 5317 1 3 78fb 1 3 4fbf 1 3 5fa9 1 3 4e0d 1 3 6ccc 1 3
6578 1 3 7d22 1 3 53c3 1 3 585e 1 3 7701 1 3 8449 1 3 8aaa 1 3 6bba 1 3 8fb0 1 3 6c88 1 3 62fe 1 3
82e5 1 3 63a0 1 3 7565 1 3 4eae 1 3 5169 1 3 51c9 1 3 6881 1 3 7ce7 1 3 826f 1 3 8ad2 1 3 91cf 1 3
52f5 1 3 5442 1 3 5973 1 3 5eec 1 3 65c5 1 3 6ffe 1 3 792a 1 3 95ad 1 3 9a6a 1 3 9e97 1 3 9ece 1 3
529b 1 3 66c6 1 3 6b77 1 3 8f62 1 3 5e74 1 3 6190 1 3 6200 1 3 649a 1 3 6f23 1 3 7149 1 3 7489 1 3
79ca 1 3 7df4 1 3 806f 1 3 8f26 1 3 84ee 1 3 9023 1 3 934a 1 3 5217 1 3 52a3 1 3 54bd 1 3 70c8 1 3
88c2 1 3 8aaa 1 3 5ec9 1 3 5ff5 1 3 637b 1 3 6bae 1 3 7c3e 1 3 7375 1 3 4ee4 1 3 56f9 1 3 5be7 1 3
5dba 1 3 601c 1 3 73b2 1 3 7469 1 3 7f9a 1 3 8046 1 3 9234 1 3 96f6 1 3 9748 1 3 9818 1 3 4f8b 1 3
79ae 1 3 91b4 1 3 96b8 1 3 60e1 1 3 4e86 1 3 50da 1 3 5bee 1 3 5c3f 1 3 6599 1 3 6a02 1 3 71ce 1 3
7642 1 3 84fc 1 3 907c 1 3 9f8d 1 3 6688 1 3 962e 1 3 5289 1 3 677b 1 3 67f3 1 3 6d41 1 3 6e9c 1 3
7409 1 3 7559 1 3 786b 1 3 7d10 1 3 985e 1 3 516d 1 3 622e 1 3 9678 1 3 502b 1 3 5d19 1 3 6dea 1 3
8f2a 1 3 5f8b 1 3 6144 1 3 6817 1 3 7387 1 3 9686 1 3 5229 1 3 540f 1 3 5c65 1 3 6613 1 3 674e 1 3
68a8 1 3 6ce5 1 3 7406 1 3 75e2 1 3 7f79 1 3 88cf 1 3 88e1 1 3 91cc 1 3 96e2 1 3 533f 1 3 6eba 1 3
541d 1 3 71d0 1 3 7498 1 3 85fa 1 3 96a3 1 3 9c57 1 3 9e9f 1 3 6797 1 3 6dcb 1 3 81e8 1 3 7acb 1 3
7b20 1 3 7c92 1 3 72c0 1 3 7099 1 3 8b58 1 3 4ec0 1 3 8336 1 3 523a 1 3 5207 1 3 5ea6 1 3 62d3 1 3
7cd6 1 3 5b85 1 3 6d1e 1 3 66b4 1 3 8f3b 1 3 884c 1 3 964d 1 3 898b 1 3 5ed3 1 3 5140 1 3 55c0 2 0
1 3 585a 1 0 1 3 6674 2 0 1 3 51de 1 3 732a 1 3 76ca 1 3 793c 1 3 795e 1 3 7965 1 3 798f 1 3 9756
1 3 7cbe 1 3 7fbd 1 0 1 3 8612 1 0 1 3 8af8 2 0 1 3 9038 1 3 90fd 3 0 1 3 98ef 1 3 98fc 1 3 9928 1
3 9db4 1 3 90de 1 3 96b7 1 3 4fae 1 3 50e7 1 3 514d 1 3 52c9 1 3 52e4 1 3 5351 1 3 559d 1 3 5606 1
3 5668 1 3 5840 1 3 58a8 1 3 5c64 1 3 5c6e 1 3 6094 1 3 6168 1 3 618e 1 3 61f2 1 3 654f 1 3 65e2 1
3 6691 1 3 6885 1 3 6d77 1 3 6e1a 1 3 6f22 1 3 716e 1 3 722b 1 3 7422 1 3 7891 1 3 793e 1 3 7949 1
3 7948 1 3 7950 1 3 7956 1 3 795d 2 3 798d 1 3 7a40 1 3 7a81 1 3 7bc0 1 3 7df4 1 3 7e09 1 3 7e41 1
3 7f72 1 3 8005 1 3 81ed 1 3 8279 1 3 8279 1 3 8457 1 3 8910 1 3 8996 1 3 8b01 1 3 8b39 1 3 8cd3 1
3 8d08 1 3 8fb6 1 3 9038 1 3 96e3 1 3 97ff 1 3 983b 1 3 6075 1 3 242ee 1 3 8218 2 2 1 3 4e26 1 3
51b5 1 3 5168 1 3 4f80 1 3 5145 1 3 5180 1 3 52c7 1 3 52fa 1 3 559d 1 3 5555 1 3 5599 1 3 55e2 1 3
585a 1 3 58b3 1 3 5944 1 3 5954 1 3 5a62 1 3 5b28 1 3 5ed2 1 3 5ed9 1 3 5f69 1 3 5fad 1 3 60d8 1 3
614e 1 3 6108 1 3 618e 1 3 6160 1 3 61f2 1 3 6234 1 3 63c4 1 3 641c 1 3 6452 1 3 6556 1 3 6674 1 3
6717 1 3 671b 1 3 6756 1 3 6b79 1 3 6bba 1 3 6d41 1 3 6edb 1 3 6ecb 1 3 6f22 1 3 701e 1 3 716e 1 3
77a7 1 3 7235 1 3 72af 1 3 732a 1 3 7471 1 3 7506 1 3 753b 1 3 761d 1 3 761f 1 3 76ca 1 3 76db 1 3
76f4 1 3 774a 1 3 7740 1 3 78cc 1 3 7ab1 1 3 7bc0 1 3 7c7b 1 3 7d5b 1 3 7df4 1 3 7f3e 1 3 8005 1 3
8352 1 3 83ef 1 3 8779 1 3 8941 1 3 8986 1 3 8996 1 3 8abf 1 3 8af8 1 3 8acb 1 3 8b01 1 3 8afe 1 3
8aed 1 3 8b39 1 3 8b8a 1 3 8d08 1 3 8f38 1 3 9072 1 3 9199 1 3 9276 1 3 967c 1 3 96e3 1 3 9756 1 3
97db 1 3 97ff 1 3 980b 1 3 983b 1 3 9b12 1 3 9f9c 1 3 2284a 1 3 22844 1 3 233d5 1 3 3b9d 1 3 4018
1 3 4039 1 3 25249 1 3 25cd0 1 3 27ed3 1 3 9f43 1 3 9f8e 26 2 1 5 66 66 0 1 5 66 69 0 1 5 66 6c 0
1 5 66 66 69 0 1 5 66 66 6c 0 2 5 73 74 0 c 2 1 5 574 576 0 1 5 574 565 0 1 5 574 56b 0 1 5 57e
576 0 1 5 574 56d 0 5 2 1 5 5d9 5b4 0 1 0 1 5 5f2 5b7 0 1 3 5e2 1 3 5d0 2 3 5d3 3 3 5db 1 3 5e8 1
3 5ea 1 3 2b 1 5 5e9 5c1 0 1 5 5e9 5c2 0 1 5 5e9 5bc 5c1 0 1 5 5e9 5bc 5c2 0 1 5 5d0 5b7 0 1 5 5d0
5b8 0 1 5 5d0 5bc 0 1 5 5d1 5bc 0 1 5 5d2 5bc 0 1 5 5d3 5bc 0 1 5 5d4 5bc 0 1 5 5d5 5bc 0 1 5 5d6
5bc 0 1 2 1 5 5d8 5bc 0 1 5 5d9 5bc 0 1 5 5da 5bc 0 1 5 5db 5bc 0 1 5 5dc 5bc 0 1 2 1 5 5de 5bc 0
1 2 1 5 5e0 5bc 0 1 5 5e1 5bc 0 1 2 1 5 5e3 5bc 0 1 5 5e4 5bc 0 1 2 1 5 5e6 5bc 0 1 5 5e7 5bc 0 1
5 5e8 5bc 0 1 5 5e9 5bc 0 1 5 5ea 5bc 0 1 5 5d5 5b9 0 1 5 5d1 5bf 0 1 5 5db 5bf 0 1 5 5e4 5bf 0 1
5 5d0 5dc 0 1 3 671 1 3 671 1 3 67b 1 3 67b 1 3 67b 1 3 67b 1 3 67e 1 3 67e 1 3 67e 1 3 67e 1 3
680 1 3 680 1 3 680 1 3 680 1 3 67a 1 3 67a 1 3 67a 1 3 67a 1 3 67f 1 3 67f 1 3 67f 1 3 67f 1 3
679 1 3 679 1 3 679 1 3 679 1 3 6a4 1 3 6a4 1 3 6a4 1 3 6a4 1 3 6a6 1 3 6a6 1 3 6a6 1 3 6a6 1 3
684 1 3 684 1 3 684 1 3 684 1 3 683 1 3 683 1 3 683 1 3 683 1 3 686 1 3 686 1 3 686 2 3 686 1 3
687 1 3 687 1 3 687 1 3 68d 1 3 68d 1 3 68c 1 3 68c 1 3 68e 1 3 68e 1 3 688 1 3 688 1 3 698 1 3
698 1 3 691 1 3 691 1 3 6a9 1 3 6a9 1 3 6a9 1 3 6a9 1 3 6af 1 3 6af 1 3 6af 1 3 6af 1 3 6b3 1 3
6b3 1 3 6b3 1 3 6b3 1 3 6b1 1 3 6b1 1 3 6b1 1 3 6b1 1 3 6ba 2 3 6ba 1 3 6bb 1 3 6bb 1 3 6bb 1 3
6c0 2 3 6c0 1 3 6c1 1 3 6c1 1 3 6c1 1 3 6be 1 3 6be 1 3 6be 1 3 6be 1 3 6d2 2 3 6d2 1 3 6d3 21 0 1
3 6ad 1 3 6ad 1 3 6ad 1 3 6ad 1 3 6c7 1 3 6c7 1 3 6c6 1 3 6c6 1 3 6c8 1 3 6c8 1 5 6c7 674 0 1 3
6cb 1 3 6cb 1 3 6c5 1 3 6c5 1 3 6c9 1 3 6c9 1 3 6d0 1 3 6d0 1 3 6d0 1 3 6d0 1 3 649 1 3 649 2 5
626 627 0 2 5 626 6d5 0 2 5 626 648 0 2 5 626 6c7 0 2 5 626 6c6 0 2 5 626 6c8 0 3 5 626 6d0 0 3 5
626 649 0 1 3 6cc 1 3 6cc 1 3 6cc 1 3 6cc 1 5 626 62c 0 1 5 626 62d 0 1 5 626 645 0 1 5 626 649 0
1 5 626 64a 0 1 5 628 62c 0 1 5 628 62d 0 1 5 628 62e 0 1 5 628 645 0 1 5 628 649 0 1 5 628 64a 0
1 5 62a 62c 0 1 5 62a 62d 0 1 5 62a 62e 0 1 5 62a 645 0 1 5 62a 649 0 1 5 62a 64a 0 1 5 62b 62c 0
1 5 62b 645 0 1 5 62b 649 0 1 5 62b 64a 0 1 5 62c 62d 0 1 5 62c 645 0 1 5 62d 62c 0 1 5 62d 645 0
1 5 62e 62c 0 1 5 62e 62d 0 1 5 62e 645 0 1 5 633 62c 0 1 5 633 62d 0 1 5 633 62e 0 1 5 633 645 0
1 5 635 62d 0 1 5 635 645 0 1 5 636 62c 0 1 5 636 62d 0 1 5 636 62e 0 1 5 636 645 0 1 5 637 62d 0
1 5 637 645 0 1 5 638 645 0 1 5 639 62c 0 1 5 639 645 0 1 5 63a 62c 0 1 5 63a 645 0 1 5 641 62c 0
1 5 641 62d 0 1 5 641 62e 0 1 5 641 645 0 1 5 641 649 0 1 5 641 64a 0 1 5 642 62d 0 1 5 642 645 0
1 5 642 649 0 1 5 642 64a 0 1 5 643 627 0 1 5 643 62c 0 1 5 643 62d 0 1 5 643 62e 0 1 5 643 644 0
1 5 643 645 0 1 5 643 649 0 1 5 643 64a 0 1 5 644 62c 0 1 5 644 62d 0 1 5 644 62e 0 1 5 644 645 0
1 5 644 649 0 1 5 644 64a 0 1 5 645 62c 0 1 5 645 62d 0 1 5 645 62e 0 1 5 645 645 0 1 5 645 649 0
1 5 645 64a 0 1 5 646 62c 0 1 5 646 62d 0 1 5 646 62e 0 1 5 646 645 0 1 5 646 649 0 1 5 646 64a 0
1 5 647 62c 0 1 5 647 645 0 1 5 647 649 0 1 5 647 64a 0 1 5 64a 62c 0 1 5 64a 62d 0 1 5 64a 62e 0
1 5 64a 645 0 1 5 64a 649 0 1 5 64a 64a 0 1 5 630 670 0 1 5 631 670 0 1 5 649 670 0 1 5 20 64c 651
0 1 5 20 64d 651 0 1 5 20 64e 651 0 1 5 20 64f 651 0 1 5 20 650 651 0 1 5 20 651 670 0 1 5 626 631
0 1 5 626 632 0 1 5 626 645 0 1 5 626 646 0 1 5 626 649 0 1 5 626 64a 0 1 5 628 631 0 1 5 628 632
0 1 5 628 645 0 1 5 628 646 0 1 5 628 649 0 1 5 628 64a 0 1 5 62a 631 0 1 5 62a 632 0 1 5 62a 645
0 1 5 62a 646 0 1 5 62a 649 0 1 5 62a 64a 0 1 5 62b 631 0 1 5 62b 632 0 1 5 62b 645 0 1 5 62b 646
0 1 5 62b 649 0 1 5 62b 64a 0 1 5 641 649 0 1 5 641 64a 0 1 5 642 649 0 1 5 642 64a 0 1 5 643 627
0 1 5 643 644 0 1 5 643 645 0 1 5 643 649 0 1 5 643 64a 0 1 5 644 645 0 1 5 644 649 0 1 5 644 64a
0 1 5 645 627 0 1 5 645 645 0 1 5 646 631 0 1 5 646 632 0 1 5 646 645 0 1 5 646 646 0 1 5 646 649
0 1 5 646 64a 0 1 5 649 670 0 1 5 64a 631 0 1 5 64a 632 0 1 5 64a 645 0 1 5 64a 646 0 1 5 64a 649
0 1 5 64a 64a 0 1 5 626 62c 0 1 5 626 62d 0 1 5 626 62e 0 1 5 626 645 0 1 5 626 647 0 1 5 628 62c
0 1 5 628 62d 0 1 5 628 62e 0 1 5 628 645 0 1 5 628 647 0 1 5 62a 62c 0 1 5 62a 62d 0 1 5 62a 62e
0 1 5 62a 645 0 1 5 62a 647 0 1 5 62b 645 0 1 5 62c 62d 0 1 5 62c 645 0 1 5 62d 62c 0 1 5 62d 645
0 1 5 62e 62c 0 1 5 62e 645 0 1 5 633 62c 0 1 5 633 62d 0 1 5 633 62e 0 1 5 633 645 0 1 5 635 62d
0 1 5 635 62e 0 1 5 635 645 0 1 5 636 62c 0 1 5 636 62d 0 1 5 636 62e 0 1 5 636 645 0 1 5 637 62d
0 1 5 638 645 0 1 5 639 62c 0 1 5 639 645 0 1 5 63a 62c 0 1 5 63a 645 0 1 5 641 62c 0 1 5 641 62d
0 1 5 641 62e 0 1 5 641 645 0 1 5 642 62d 0 1 5 642 645 0 1 5 643 62c 0 1 5 643 62d 0 1 5 643 62e
0 1 5 643 644 0 1 5 643 645 0 1 5 644 62c 0 1 5 644 62d 0 1 5 644 62e 0 1 5 644 645 0 1 5 644 647
0 1 5 645 62c 0 1 5 645 62d 0 1 5 645 62e 0 1 5 645 645 0 1 5 646 62c 0 1 5 646 62d 0 1 5 646 62e
0 1 5 646 645 0 1 5 646 647 0 1 5 647 62c 0 1 5 647 645 0 1 5 647 670 0 1 5 64a 62c 0 1 5 64a 62d
0 1 5 64a 62e 0 1 5 64a 645 0 1 5 64a 647 0 1 5 626 645 0 1 5 626 647 0 1 5 628 645 0 1 5 628 647
0 1 5 62a 645 0 1 5 62a 647 0 1 5 62b 645 0 1 5 62b 647 0 1 5 633 645 0 1 5 633 647 0 1 5 634 645
0 1 5 634 647 0 1 5 643 644 0 1 5 643 645 0 1 5 644 645 0 1 5 646 645 0 1 5 646 647 0 1 5 64a 645
0 1 5 64a 647 0 1 5 640 64e 651 0 1 5 640 64f 651 0 1 5 640 650 651 0 1 5 637 649 0 1 5 637 64a 0
1 5 639 649 0 1 5 639 64a 0 1 5 63a 649 0 1 5 63a 64a 0 1 5 633 649 0 1 5 633 64a 0 1 5 634 649 0
1 5 634 64a 0 1 5 62d 649 0 1 5 62d 64a 0 1 5 62c 649 0 1 5 62c 64a 0 1 5 62e 649 0 1 5 62e 64a 0
1 5 635 649 0 1 5 635 64a 0 1 5 636 649 0 1 5 636 64a 0 1 5 634 62c 0 1 5 634 62d 0 1 5 634 62e 0
1 5 634 645 0 1 5 634 631 0 1 5 633 631 0 1 5 635 631 0 1 5 636 631 0 1 5 637 649 0 1 5 637 64a 0
1 5 639 649 0 1 5 639 64a 0 1 5 63a 649 0 1 5 63a 64a 0 1 5 633 649 0 1 5 633 64a 0 1 5 634 649 0
1 5 634 64a 0 1 5 62d 649 0 1 5 62d 64a 0 1 5 62c 649 0 1 5 62c 64a 0 1 5 62e 649 0 1 5 62e 64a 0
1 5 635 649 0 1 5 635 64a 0 1 5 636 649 0 1 5 636 64a 0 1 5 634 62c 0 1 5 634 62d 0 1 5 634 62e 0
1 5 634 645 0 1 5 634 631 0 1 5 633 631 0 1 5 635 631 0 1 5 636 631 0 1 5 634 62c 0 1 5 634 62d 0
1 5 634 62e 0 1 5 634 645 0 1 5 633 647 0 1 5 634 647 0 1 5 637 645 0 1 5 633 62c 0 1 5 633 62d 0
1 5 633 62e 0 1 5 634 62c 0 1 5 634 62d 0 1 5 634 62e 0 1 5 637 645 0 1 5 638 645 0 2 5 627 64b 0
12 0 1 5 62a 62c 645 0 2 5 62a 62d 62c 0 1 5 62a 62d 645 0 1 5 62a 62e 645 0 1 5 62a 645 62c 0 1 5
62a 645 62d 0 1 5 62a 645 62e 0 2 5 62c 645 62d 0 1 5 62d 645 64a 0 1 5 62d 645 649 0 1 5 633 62d
62c 0 1 5 633 62c 62d 0 1 5 633 62c 649 0 2 5 633 645 62d 0 1 5 633 645 62c 0 2 5 633 645 645 0 2
5 635 62d 62d 0 1 5 635 645 645 0 2 5 634 62d 645 0 1 5 634 62c 64a 0 2 5 634 645 62e 0 2 5 634
645 645 0 1 5 636 62d 649 0 2 5 636 62e 645 0 2 5 637 645 62d 0 1 5 637 645 645 0 1 5 637 645 64a
0 1 5 639 62c 645 0 2 5 639 645 645 0 1 5 639 645 649 0 1 5 63a 645 645 0 1 5 63a 645 64a 0 1 5
63a 645 649 0 2 5 641 62e 645 0 1 5 642 645 62d 0 1 5 642 645 645 0 1 5 644 62d 645 0 1 5 644 62d
64a 0 1 5 644 62d 649 0 2 5 644 62c 62c 0 2 5 644 62e 645 0 2 5 644 645 62d 0 1 5 645 62d 62c 0 1
5 645 62d 645 0 1 5 645 62d 64a 0 1 5 645 62c 62d 0 1 5 645 62c 645 0 1 5 645 62e 62c 0 1 5 645
62e 645 0 2 0 1 5 645 62c 62e 0 1 5 647 645 62c 0 1 5 647 645 645 0 1 5 646 62d 645 0 1 5 646 62d
649 0 2 5 646 62c 645 0 1 5 646 62c 649 0 1 5 646 645 64a 0 1 5 646 645 649 0 2 5 64a 645 645 0 1
5 628 62e 64a 0 1 5 62a 62c 64a 0 1 5 62a 62c 649 0 1 5 62a 62e 64a 0 1 5 62a 62e 649 0 1 5 62a
645 64a 0 1 5 62a 645 649 0 1 5 62c 645 64a 0 1 5 62c 62d 649 0 1 5 62c 645 649 0 1 5 633 62e 649
0 1 5 635 62d 64a 0 1 5 634 62d 64a 0 1 5 636 62d 64a 0 1 5 644 62c 64a 0 1 5 644 645 64a 0 1 5
64a 62d 64a 0 1 5 64a 62c 64a 0 1 5 64a 645 64a 0 1 5 645 645 64a 0 1 5 642 645 64a 0 1 5 646 62d
64a 0 1 5 642 645 62d 0 1 5 644 62d 645 0 1 5 639 645 64a 0 1 5 643 645 64a 0 1 5 646 62c 62d 0 1
5 645 62e 64a 0 1 5 644 62c 645 0 1 5 643 645 645 0 1 5 644 62c 645 0 1 5 646 62c 62d 0 1 5 62c
62d 64a 0 1 5 62d 62c 64a 0 1 5 645 62c 64a 0 1 5 641 645 64a 0 1 5 628 62d 64a 0 1 5 643 645 645
0 1 5 639 62c 645 0 1 5 635 645 645 0 1 5 633 62e 64a 0 1 5 646 62c 64a 0 8 0 20 2 1 5 635 644 6d2
0 1 5 642 644 6d2 0 1 5 627 644 644 647 0 1 5 627 643 628 631 0 1 5 645 62d 645 62f 0 1 5 635 644
639 645 0 1 5 631 633 648 644 0 1 5 639 644 64a 647 0 1 5 648 633 644 645 0 1 5 635 644 649 0 1 5
635 644 649 20 627 644 644 647 20 639 644 64a 647 20 648 633 644 645 0 1 5 62c 644 20 62c 644 627
644 647 0 1 5 631 6cc 627 644 0 3 0 10 1 1 3 2c 1 3 3001 1 2 2 3 3a 1 3 21 1 3 3f 2 3 3016 7 2 10
0 1 2 1 3 2014 1 3 2013 1 3 5f 1 3 5f 2 3 28 1 3 7b 1 3 7d 2 3 3014 2 3 3010 2 3 300a 2 3 3008 4 3
300c 2 0 1 3 5b 1 3 5d 4 5 20 305 0 1 3 5f 1 3 5f 1 3 5f 1 3 2c 1 3 3001 2 2 1 3 3b 1 3 3a 1 3 3f
1 3 21 1 3 2014 2 3 28 1 3 7b 1 3 7d 2 3 3014 1 3 23 1 3 26 2 3 2a 1 3 2d 1 3 3c 1 3 3e 1 3 3d 1 2
1 3 5c 2 3 24 1 3 40 4 2 1 5 20 64b 0 1 5 640 64b 0 1 5 20 64c 0 1 0 1 5 20 64d 0 1 2 1 5 20 64e 0
1 5 640 64e 0 1 5 20 64f 0 1 5 640 64f 0 1 5 20 650 0 1 5 640 650 0 1 5 20 651 0 1 5 640 651 0 1 5
20 652 0 1 5 640 652 0 2 3 621 2 3 622 2 3 623 2 3 624 2 3 625 1 3 626 1 3 626 2 3 626 2 3 627 1 3
628 1 3 628 2 3 628 2 3 629 1 3 62a 1 3 62a 2 3 62a 1 3 62b 1 3 62b 2 3 62b 1 3 62c 1 3 62c 2 3
62c 1 3 62d 1 3 62d 2 3 62d 1 3 62e 1 3 62e 2 3 62e 2 3 62f 2 3 630 2 3 631 2 3 632 1 3 633 1 3
633 2 3 633 1 3 634 1 3 634 2 3 634 1 3 635 1 3 635 2 3 635 1 3 636 1 3 636 2 3 636 1 3 637 1 3
637 2 3 637 1 3 638 1 3 638 2 3 638 1 3 639 1 3 639 2 3 639 1 3 63a 1 3 63a 1 3 63a 1 3 641 1 3
641 1 3 641 2 3 641 1 3 642 1 3 642 2 3 642 1 3 643 1 3 643 2 3 643 1 3 644 1 3 644 2 3 644 1 3
645 1 3 645 2 3 645 1 3 646 1 3 646 2 3 646 1 3 647 1 3 647 2 3 647 2 3 648 2 3 649 1 3 64a 1 3
64a 1 3 64a 2 5 644 622 0 2 5 644 623 0 2 5 644 625 0 2 5 644 627 0 2 2 1 1 1 2 20 3 21 1a 3 61 24
3 5b 2 3 2985 1 3 2e 2 3 300c 1 3 3001 1 3 30fb 1 3 30f2 1 3 30a1 1 3 30a3 1 3 30a5 1 3 30a7 1 3
30a9 1 3 30e3 1 3 30e5 1 3 30e7 1 3 30c3 1 3 30fc 1 3 30a2 1 3 30a4 1 3 30a6 1 3 30a8 2 3 30aa 1 3
30ad 1 3 30af 1 3 30b1 1 3 30b3 1 3 30b5 1 3 30b7 1 3 30b9 1 3 30bb 1 3 30bd 1 3 30bf 1 3 30c1 1 3
30c4 1 3 30c6 1 3 30c8 6 3 30ca 1 3 30d2 1 3 30d5 1 3 30d8 1 3 30db 5 3 30de 1 3 30e4 1 3 30e6 6 3
30e8 1 3 30ef 1 3 30f3 2 3 3099 1 1 2 3 1100 1 3 11aa 1 3 1102 2 3 11ac 3 3 1103 6 3 11b0 1 3 111a
3 3 1106 1 3 1121 a 3 1109 3 2 6 3 1161 2 2 6 3 1167 2 2 6 3 116d 2 2 3 3 1173 3 2 2 3 a2 1 3 ac 1
5 20 304 0 1 3 a6 1 3 a5 1 3 20a9 1 2 1 3 2502 4 3 2190 1 3 25a0 1 3 25cb 11 2 c 0 1 2 1a 0 1 2 13
0 1 2 2 0 1 2 f 0 2 2 e 0 22 2 7b 0 5 2 3 0 4 2 2d 0 3 2 58 0 1 2 d 0 3 2 1 0 2f 2 2e 0 82 2 1d 0
3 2 31 0 f 2 1c 0 4 2 24 0 9 2 1e 0 5 2 2b 0 5 2 1e 0 1 2 25 0 4 2 e 0 2a 2 28 3 10428 76 0 2 2 a
0 6 2 24 3 104d8 4 2 24 0 4 2 28 0 8 2 34 0 b 2 1 0 b 3 10597 1 2 f 3 105a3 1 2 7 3 105b3 1 2 2 3
105bb 1 2 b 0 1 2 f 0 1 2 7 0 1 2 2 0 3 2 34 0 c 2 137 0 9 2 16 0 a 2 8 0 18 2 1 0 2 3 2d0 1 3 e6
1 3 299 1 3 253 1 2 1 3 2a3 1 3 ab66 1 3 2a5 1 3 2a4 2 3 256 1 3 1d91 1 3 258 1 3 25e 1 3 2a9 1 3
264 1 3 262 1 3 260 1 3 29b 1 3 127 1 3 29c 1 3 267 1 3 284 2 3 2aa 1 3 26c 1 3 1df04 1 3 a78e 1 3
26e 1 3 1df05 1 3 28e 1 3 1df06 1 3 f8 2 3 276 1 3 71 1 3 27a 1 3 1df08 2 3 27d 1 3 280 1 3 2a8 1
3 2a6 1 3 ab67 1 3 2a7 1 3 288 1 3 2c71 1 2 1 3 28f 2 3 2a1 1 3 298 3 3 1c0 1 3 1df0a 1 3 1df1e 45
2 6 0 2 2 1 0 1 2 2c 0 1 2 2 0 3 2 1 0 2 2 17 0 1 2 48 0 8 2 9 0 30 2 13 0 1 2 2 0 5 2 21 0 3 2 1b
0 5 2 1b 0 26 2 38 0 4 2 14 0 2 2 32 0 1 2 2 0 5 2 8 0 1 2 3 0 1 2 1d 0 2 2 3 0 4 2 a 0 7 2 9 0 7
2 40 0 20 2 27 0 4 2 c 0 9 2 36 0 3 2 1d 0 2 2 1b 0 5 2 1a 0 7 2 4 0 c 2 7 0 50 2 49 0 37 2 33 3
10cc0 d 2 33 0 7 2 2e 0 8 2 a 0 6 2 10 0 16 3 10d70 3 2 1d 0 8 2 2 0 d0 2 1f 0 1 2 2a 0 1 2 3 0 2
2 2 0 10 2 6 0 8 2 9 0 21 2 2e 0 8 2 2a 0 16 2 1a 0 26 2 1c 0 14 2 17 0 9 2 4e 0 4 2 24 0 9 2 3e 0
1 2 5 0 d 2 19 0 7 2 a 0 6 2 35 0 1 2 12 0 8 2 27 0 9 2 60 0 1 2 14 0 b 2 12 0 1 2 2f 0 3e 2 7 0 1
2 1 0 1 2 4 0 1 2 f 0 1 2 b 0 6 2 3b 0 5 2 a 0 6 2 4 0 1 2 8 0 2 2 2 0 2 2 16 0 1 2 7 0 1 2 2 0 1
2 5 0 1 2 a 0 2 2 2 0 2 2 3 0 2 2 1 0 6 2 1 0 5 2 7 0 2 2 7 0 3 2 5 0 b 2 a 0 1 2 1 0 2 2 1 0 1 2
26 0 1 2 a 0 1 2 1 0 2 2 1 0 1 2 4 0 1 2 a 0 1 2 2 0 8 2 2 0 1d 2 5c 0 1 2 5 0 1e 2 48 0 8 2 a 0
a6 2 36 0 2 2 26 0 22 2 45 0 b 2 a 0 6 2 d 0 13 2 3a 0 6 2 a 0 6 2 14 0 1c 2 1b 0 2 2 f 0 4 2 17 0
b9 2 3c 0 64 2 20 3 118c0 33 0 c 2 8 0 2 2 1 0 2 2 8 0 1 2 2 0 1 2 1e 0 1 2 2 0 2 2 c 0 9 2 a 0 46
2 8 0 2 2 2e 0 2 2 b 0 1b 2 48 0 8 2 53 0 d 2 49 0 7 2 a 0 56 2 8 0 58 2 22 0 e 2 a 0 6 2 9 0 1 2
2d 0 1 2 e 0 a 2 1d 0 3 2 20 0 2 2 16 0 1 2 e 0 49 2 7 0 1 2 2 0 1 2 2c 0 3 2 1 0 1 2 2 0 1 2 9 0
8 2 a 0 6 2 6 0 1 2 2 0 1 2 25 0 1 2 2 0 1 2 6 0 7 2 a 0 6 2 2c 0 4 2 a 0 f6 2 19 0 7 2 11 0 1 2
29 0 3 2 1d 0 55 2 1 0 f 2 32 0 d 2 39b 0 66 2 6f 0 1 2 5 0 b 2 c4 0 a4c 2 63 0 d 2 430 0 10 2 16
0 a 2 f9b 0 5 2 247 0 1ab9 2 3a 0 6c6 2 239 0 7 2 1f 0 1 2 a 0 4 2 51 0 1 2 a 0 6 2 1e 0 2 2 6 0 a
2 46 0 a 2 a 0 1 2 7 0 1 2 15 0 5 2 13 0 1b0 2 3a 0 c6 2 20 3 16e60 3b 0 5 2 19 3 16ebb 2 2 19 0
2c 2 4b 0 4 2 39 0 7 2 11 0 40 2 5 0 b 2 7 0 9 2 1cd6 0 29 2 20 0 61 2 73 0 21fd 2 4 0 1 2 7 0 1 2
2 0 1 2 123 0 f 2 1 0 1d 2 3 0 2 2 1 0 e 2 4 0 8 2 18c 0 904 2 6b 0 5 2 d 0 3 2 9 0 7 2 a 0 2 2 4
0 4 1 f5c 2 d6 0 1a 3 61 a 3 30 3 0 3 2 1b4 0 6 2 17 0 f 2 11 0 f 2 2e 0 2 2 17 0 9 2 74 0 3c 2 f6
0 a 2 27 0 2 2 35 0 1 5 1d157 1d165 0 1 5 1d158 1d165 0 1 5 1d158 1d165 1d16e 0 1 5 1d158 1d165
1d16f 0 1 5 1d158 1d165 1d170 0 1 5 1d158 1d165 1d171 0 1 5 1d158 1d165 1d172 0 e 0 8 1 40 0 1 5
1d1b9 1d165 0 1 5 1d1ba 1d165 0 1 5 1d1b9 1d165 1d16e 0 1 5 1d1ba 1d165 1d16e 0 1 5 1d1b9 1d165
1d16f 0 1 5 1d1ba 1d165 1d16f 0 2a 0 15 2 46 0 7a 2 14 0 c 2 14 0 c 2 57 0 9 2 19 0 87 2 1a 3 61
1a 3 61 1a 3 61 7 3 61 1 2 12 3 69 1a 3 61 1a 3 61 1 3 61 1 2 2 3 63 2 2 1 3 67 2 2 2 3 6a 2 2 4 3
6e 1 2 8 3 73 4 3 61 1 2 1 3 66 1 2 7 3 68 1 2 b 3 70 1a 3 61 1a 3 61 2 3 61 1 2 4 3 64 2 2 8 3 6a
1 2 7 3 73 1 2 1a 3 61 2 3 61 1 2 4 3 64 1 2 5 3 69 1 2 1 3 6f 3 2 7 3 73 1 2 1a 3 61 1a 3 61 1a 3
61 1a 3 61 1a 3 61 1a 3 61 1a 3 61 1a 3 61 1a 3 61 1a 3 61 1a 3 61 1a 3 61 1a 3 61 1 3 131 1 3 237
2 2 11 3 3b1 1 3 3b8 7 3 3c3 1 3 2207 11 3 3b1 1 3 3c3 7 3 3c3 1 3 2202 1 3 3b5 1 3 3b8 1 3 3ba 1
3 3c6 1 3 3c1 1 3 3c0 11 3 3b1 1 3 3b8 7 3 3c3 1 3 2207 11 3 3b1 1 3 3c3 7 3 3c3 1 3 2202 1 3 3b5
1 3 3b8 1 3 3ba 1 3 3c6 1 3 3c1 1 3 3c0 11 3 3b1 1 3 3b8 7 3 3c3 1 3 2207 11 3 3b1 1 3 3c3 7 3 3c3
1 3 2202 1 3 3b5 1 3 3b8 1 3 3ba 1 3 3c6 1 3 3c1 1 3 3c0 11 3 3b1 1 3 3b8 7 3 3c3 1 3 2207 11 3
3b1 1 3 3c3 7 3 3c3 1 3 2202 1 3 3b5 1 3 3b8 1 3 3ba 1 3 3c6 1 3 3c1 1 3 3c0 11 3 3b1 1 3 3b8 7 3
3c3 1 3 2207 11 3 3b1 1 3 3c3 7 3 3c3 1 3 2202 1 3 3b5 1 3 3b8 1 3 3ba 1 3 3c6 1 3 3c1 1 3 3c0 1 3
3dd 1 3 3dd 2 2 a 3 30 a 3 30 a 3 30 a 3 30 a 3 30 28c 0 f 2 5 0 1 2 f 0 450 2 1f 0 6 2 6 0 d5 2 7
0 1 2 11 0 2 2 7 0 1 2 2 0 1 2 5 0 5 2 9 3 430 3 3 43a b 3 43e 1 3 44b 2 3 44d 1 3 a689 1 3 4d9 1
3 456 1 3 458 1 3 4e9 1 3 4af 1 3 4cf 9 3 430 2 3 43a 2 3 43e 1 3 441 6 3 443 2 3 44a 1 3 491 1 3
456 1 3 455 1 3 45f 1 3 4ab 1 3 a651 1 3 4b1 21 2 1 0 70 2 2d 0 3 2 e 0 2 2 a 0 4 2 2 0 140 2 1f 0
11 2 3a 0 5 2 1 0 1d0 2 2a 0 d6 2 2b 0 4 2 1 0 c0 2 1f 0 1 2 16 0 8 2 2 0 e0 2 7 0 1 2 4 0 1 2 2 0
1 2 f 0 1 2 c5 0 2 2 10 0 29 2 22 3 1e922 2a 0 4 2 a 0 4 2 2 0 311 2 44 0 4c 2 3d 0 c2 2 2 3 627 1
3 62c 1 3 62f 1 2 1 3 648 1 3 632 1 3 62d 1 3 637 1 3 64a 4 3 643 1 3 633 1 3 639 1 3 641 1 3 635
1 3 642 1 3 631 1 3 634 2 3 62a 1 3 62e 1 3 630 1 3 636 1 3 638 1 3 63a 1 3 66e 1 3 6ba 1 3 6a1 1
3 66f 1 2 1 3 628 1 3 62c 1 2 1 3 647 2 2 1 3 62d 1 2 1 3 64a 4 3 643 1 3 633 1 3 639 1 3 641 1 3
635 1 3 642 1 2 1 3 634 2 3 62a 1 3 62e 1 2 1 3 636 1 2 1 3 63a 6 2 1 3 62c 4 2 1 3 62d 1 2 1 3
64a 1 2 1 3 644 1 2 1 3 646 1 3 633 1 3 639 1 2 1 3 635 1 3 642 1 2 1 3 634 2 2 1 3 62e 1 2 1 3
636 1 2 1 3 63a 1 2 1 3 6ba 1 2 1 3 66f 1 2 1 3 628 1 3 62c 1 2 1 3 647 2 2 1 3 62d 1 3 637 1 3
64a 1 3 643 1 2 2 3 645 1 3 633 1 3 639 1 3 641 1 3 635 1 3 642 1 2 1 3 634 2 3 62a 1 3 62e 1 2 1
3 636 1 3 638 1 3 63a 1 3 66e 1 2 1 3 6a1 1 2 2 3 627 1 3 62c 1 3 62f 2 3 647 1 3 632 1 3 62d 1 3
637 1 3 64a 1 2 3 3 644 1 3 633 1 3 639 1 3 641 1 3 635 1 3 642 1 3 631 1 3 634 2 3 62a 1 3 62e 1
3 630 1 3 636 1 3 638 1 3 63a 5 2 1 3 628 1 3 62c 1 3 62f 1 2 1 3 648 1 3 632 1 3 62d 1 3 637 1 3
64a 1 2 3 3 644 1 3 633 1 3 639 1 3 641 1 3 635 1 3 642 1 3 631 1 3 634 2 3 62a 1 3 62e 1 3 630 1
3 636 1 3 638 1 3 63a 34 2 2 0 10e 2 2c 0 4 2 64 0 c 2 f 0 2 2 f 0 1 2 f 0 1 2 25 0 b 2 1 5 30 2c
0 1 5 31 2c 0 1 5 32 2c 0 1 5 33 2c 0 1 5 34 2c 0 1 5 35 2c 0 1 5 36 2c 0 1 5 37 2c 0 1 5 38 2c 0
1 5 39 2c 0 5 0 1 5 28 61 29 0 1 5 28 62 29 0 1 5 28 63 29 0 1 5 28 64 29 0 1 5 28 65 29 0 1 5 28
66 29 0 1 5 28 67 29 0 1 5 28 68 29 0 1 5 28 69 29 0 1 5 28 6a 29 0 1 5 28 6b 29 0 1 5 28 6c 29 0
1 5 28 6d 29 0 1 5 28 6e 29 0 1 5 28 6f 29 0 1 5 28 70 29 0 1 5 28 71 29 0 1 5 28 72 29 0 1 5 28
73 29 0 1 5 28 74 29 0 1 5 28 75 29 0 1 5 28 76 29 0 1 5 28 77 29 0 1 5 28 78 29 0 1 5 28 79 29 0
1 5 28 7a 29 0 1 5 3014 73 3015 0 1 3 63 1 3 72 1 5 63 64 0 1 5 77 7a 0 1 0 1a 3 61 1 5 68 76 0 1
5 6d 76 0 1 5 73 64 0 1 5 73 73 0 1 5 70 70 76 0 1 5 77 63 0 1a 0 1 5 6d 63 0 1 5 6d 64 0 1 5 6d
72 0 23 0 1 5 64 6a 0 1d 0 38 2 1a 0 1 5 307b 304b 0 1 5 30b3 30b3 0 1 3 30b5 d 2 1 3 624b 1 3
5b57 1 3 53cc 1 3 30c7 1 3 4e8c 1 3 591a 1 3 89e3 1 3 5929 1 3 4ea4 1 3 6620 1 3 7121 1 3 6599 1 3
524d 1 3 5f8c 1 3 518d 1 3 65b0 1 3 521d 1 3 7d42 1 3 751f 1 3 8ca9 1 3 58f0 1 3 5439 1 3 6f14 1 3
6295 1 3 6355 1 3 4e00 1 3 4e09 1 3 904a 1 3 5de6 1 3 4e2d 1 3 53f3 1 3 6307 1 3 8d70 1 3 6253 1 3
7981 1 3 7a7a 1 3 5408 1 3 6e80 1 3 6709 1 3 6708 1 3 7533 1 3 5272 1 3 55b6 1 3 914d 4 2 1 5 3014
672c 3015 0 1 5 3014 4e09 3015 0 1 5 3014 4e8c 3015 0 1 5 3014 5b89 3015 0 1 5 3014 70b9 3015 0 1
5 3014 6253 3015 0 1 5 3014 76d7 3015 0 1 5 3014 52dd 3015 0 1 5 3014 6557 3015 0 7 2 1 3 5f97 1 3
53ef e 2 6 0 9a 2 3d9 0 3 2 11 0 3 2 d 0 3 2 da 0 6 2 c 0 4 2 1 0 f 2 c 0 4 2 38 0 8 2 a 0 6 2 28
0 8 2 1e 0 2 2 c 0 4 2 2 0 e 2 9 0 27 2 158 0 8 2 e 0 2 2 d 0 3 2 b 0 3 2 39 0 1 2 1 0 4 2 10 0 2
2 c 0 4 2 a 0 7 2 93 0 1 2 5c 0 a 3 30 1 0 405 2 a6e0 0 20 2 111e 0 2 2 168e 0 2 2 1d31 0 f 2 26e
0 9a2 2 1 3 4e3d 1 3 4e38 1 3 4e41 1 3 20122 1 3 4f60 1 3 4fae 1 3 4fbb 1 3 5002 1 3 507a 1 3 5099
1 3 50e7 1 3 50cf 1 3 349e 1 3 2063a 1 3 514d 1 3 5154 1 3 5164 1 3 5177 1 3 2051c 1 3 34b9 1 3
5167 1 3 518d 1 3 2054b 1 3 5197 1 3 51a4 1 3 4ecc 1 3 51ac 1 3 51b5 1 3 291df 1 3 51f5 1 3 5203 1
3 34df 1 3 523b 1 3 5246 1 3 5272 1 3 5277 1 3 3515 1 3 52c7 1 3 52c9 1 3 52e4 1 3 52fa 2 3 5305 1
3 5317 1 3 5349 1 3 5351 1 3 535a 1 3 5373 1 3 537d 1 3 537f 1 3 537f 1 3 537f 1 3 20a2c 1 3 7070
1 3 53ca 1 3 53df 1 3 20b63 1 3 53eb 1 3 53f1 1 3 5406 1 3 549e 1 3 5438 1 3 5448 1 3 5468 1 3
54a2 1 3 54f6 1 3 5510 1 3 5553 1 3 5563 1 3 5584 1 3 5584 1 3 5599 1 3 55ab 1 3 55b3 1 3 55c2 1 3
5716 1 3 5606 1 3 5717 1 3 5651 1 3 5674 1 3 5207 1 3 58ee 1 3 57ce 1 3 57f4 1 3 580d 1 3 578b 1 3
5832 1 3 5831 1 3 58ac 1 3 214e4 1 3 58f2 1 3 58f7 1 3 5906 1 3 591a 1 3 5922 1 3 5962 1 3 216a8 1
3 216ea 1 3 59ec 1 3 5a1b 1 3 5a27 1 3 59d8 1 3 5a66 1 3 36ee 1 3 36fc 1 3 5b08 1 3 5b3e 1 3 5b3e
1 3 219c8 1 3 5bc3 1 3 5bd8 1 3 5be7 1 3 5bf3 1 3 21b18 1 3 5bff 1 3 5c06 1 3 5f53 1 3 5c22 1 3
3781 1 3 5c60 1 3 5c6e 1 3 5cc0 1 3 5c8d 1 3 21de4 1 3 5d43 1 3 21de6 1 3 5d6e 1 3 5d6b 1 3 5d7c 2
3 5de1 1 3 382f 1 3 5dfd 1 3 5e28 1 3 5e3d 1 3 5e69 1 3 3862 1 3 22183 1 3 387c 1 3 5eb0 1 3 5eb3
1 3 5eb6 1 3 5eca 1 3 2a392 1 3 5efe 1 3 22331 1 3 22331 1 3 8201 1 3 5f22 1 3 5f22 1 3 38c7 1 3
232b8 1 3 261da 1 3 5f62 1 3 5f6b 1 3 38e3 1 3 5f9a 1 3 5fcd 1 3 5fd7 1 3 5ff9 1 3 6081 1 3 393a 1
3 391c 1 3 6094 1 3 226d4 1 3 60c7 1 3 6148 1 3 614c 1 3 614e 1 3 614c 1 3 617a 1 3 618e 1 3 61b2
1 3 61a4 1 3 61af 1 3 61de 1 3 61f2 1 3 61f6 1 3 6210 1 3 621b 1 3 625d 1 3 62b1 1 3 62d4 1 3 6350
1 3 22b0c 1 3 633d 1 3 62fc 1 3 6368 1 3 6383 1 3 63e4 1 3 22bf1 1 3 6422 1 3 63c5 1 3 63a9 1 3
3a2e 1 3 6469 1 3 647e 1 3 649d 1 3 6477 1 3 3a6c 1 3 654f 1 3 656c 1 3 2300a 1 3 65e3 1 3 66f8 1
3 6649 1 3 3b19 1 3 6691 1 3 3b08 1 3 3ae4 1 3 5192 1 3 5195 1 3 6700 1 3 669c 1 3 80ad 1 3 43d9 1
3 6717 1 3 671b 1 3 6721 1 3 675e 1 3 6753 1 3 233c3 1 3 3b49 1 3 67fa 1 3 6785 1 3 6852 1 3 6885
1 3 2346d 1 3 688e 1 3 681f 1 3 6914 1 3 3b9d 1 3 6942 1 3 69a3 1 3 69ea 1 3 6aa8 1 3 236a3 1 3
6adb 1 3 3c18 1 3 6b21 1 3 238a7 1 3 6b54 1 3 3c4e 1 3 6b72 1 3 6b9f 2 3 6bba 1 3 23a8d 1 3 21d0b
1 3 23afa 1 3 6c4e 1 3 23cbc 1 3 6cbf 1 3 6ccd 1 3 6c67 1 3 6d16 1 3 6d3e 1 3 6d77 1 3 6d41 1 3
6d69 1 3 6d78 1 3 6d85 1 3 23d1e 1 3 6d34 1 3 6e2f 1 3 6e6e 1 3 3d33 1 3 6ecb 1 3 6ec7 1 3 23ed1 1
3 6df9 1 3 6f6e 1 3 23f5e 1 3 23f8e 1 3 6fc6 1 3 7039 1 3 701e 1 3 701b 1 3 3d96 1 3 704a 1 3 707d
1 3 7077 1 3 70ad 1 3 20525 1 3 7145 1 3 24263 1 3 719c 1 3 243ab 1 3 7228 1 3 7235 1 3 7250 1 3
24608 1 3 7280 1 3 7295 1 3 24735 1 3 24814 1 3 737a 1 3 738b 1 3 3eac 1 3 73a5 1 3 3eb8 1 3 3eb8
1 3 7447 1 3 745c 1 3 7471 1 3 7485 1 3 74ca 1 3 3f1b 1 3 7524 1 3 24c36 1 3 753e 1 3 24c92 1 3
7570 1 3 2219f 1 3 7610 1 3 24fa1 1 3 24fb8 1 3 25044 1 3 3ffc 1 3 4008 1 3 76f4 1 3 250f3 1 3
250f2 1 3 25119 1 3 25133 2 3 771e 1 3 771f 1 3 774a 1 3 4039 1 3 778b 1 3 4046 1 3 4096 1 3 2541d
1 3 784e 1 3 788c 1 3 78cc 1 3 40e3 1 3 25626 1 3 7956 1 3 2569a 1 3 256c5 1 3 798f 1 3 79eb 1 3
412f 1 3 7a40 1 3 7a4a 1 3 7a4f 1 3 2597c 1 3 25aa7 1 3 25aa7 1 3 7aee 1 3 4202 1 3 25bab 1 3 7bc6
1 3 7bc9 1 3 4227 1 3 25c80 1 3 7cd2 1 3 42a0 1 3 7ce8 1 3 7ce3 1 3 7d00 1 3 25f86 1 3 7d63 1 3
4301 1 3 7dc7 1 3 7e02 1 3 7e45 1 3 4334 1 3 26228 1 3 26247 1 3 4359 1 3 262d9 1 3 7f7a 1 3 2633e
1 3 7f95 1 3 7ffa 1 3 8005 1 3 264da 1 3 26523 1 3 8060 1 3 265a8 1 3 8070 1 3 2335f 1 3 43d5 1 3
80b2 1 3 8103 1 3 440b 1 3 813e 1 3 5ab5 1 3 267a7 1 3 267b5 1 3 23393 1 3 2339c 1 3 8201 1 3 8204
1 3 8f9e 1 3 446b 1 3 8291 1 3 828b 1 3 829d 1 3 52b3 1 3 82b1 1 3 82b3 1 3 82bd 1 3 82e6 1 3
26b3c 1 3 82e5 1 3 831d 1 3 8363 1 3 83ad 1 3 8323 1 3 83bd 1 3 83e7 1 3 8457 1 3 8353 1 3 83ca 1
3 83cc 1 3 83dc 1 3 26c36 1 3 26d6b 1 3 26cd5 1 3 452b 1 3 84f1 1 3 84f3 1 3 8516 1 3 273ca 1 3
8564 1 3 26f2c 1 3 455d 1 3 4561 1 3 26fb1 1 3 270d2 1 3 456b 1 3 8650 1 3 865c 1 3 8667 1 3 8669
1 3 86a9 1 3 8688 1 3 870e 1 3 86e2 1 3 8779 1 3 8728 1 3 876b 1 3 8786 1 3 45d7 1 3 87e1 1 3 8801
1 3 45f9 1 3 8860 1 3 8863 1 3 27667 1 3 88d7 1 3 88de 1 3 4635 1 3 88fa 1 3 34bb 1 3 278ae 1 3
27966 1 3 46be 1 3 46c7 1 3 8aa0 1 3 8aed 1 3 8b8a 1 3 8c55 1 3 27ca8 1 3 8cab 1 3 8cc1 1 3 8d1b 1
3 8d77 1 3 27f2f 1 3 20804 1 3 8dcb 1 3 8dbc 1 3 8df0 1 3 208de 1 3 8ed4 1 3 8f38 1 3 285d2 1 3
285ed 1 3 9094 1 3 90f1 1 3 9111 1 3 2872e 1 3 911b 1 3 9238 2 3 92d7 1 3 927c 1 3 93f9 1 3 9415 1
3 28bfa 1 3 958b 1 3 4995 1 3 95b7 1 3 28d77 1 3 49e6 1 3 96c3 1 3 5db2 1 3 9723 1 3 29145 1 3
2921a 1 3 4a6e 1 3 4a76 1 3 97e0 1 3 2940a 1 3 4ab2 1 3 29496 1 3 980b 1 3 980b 1 3 9829 1 3 295b6
1 3 98e2 1 3 4b33 1 3 9929 1 3 99a7 1 3 99c2 1 3 99fe 1 3 4bce 1 3 29b30 1 3 9b12 1 3 9c40 1 3
9cfd 1 3 4cce 1 3 4ced 1 3 9d67 1 3 2a0ce 1 3 4cf8 1 3 2a105 1 3 2a20e 1 3 2a291 1 3 9ebb 1 3 4d56
1 3 9ef9 1 3 9efe 1 3 9f05 1 3 9f0f 1 3 9f16 1 3 9f3b 1 3 2a600 5e2 2 134b 0 5 2 212a 0 acc86 2 f0
1 2fe10 2"

/-- Characters composed of two. -/
def compositions : String := "
e0 61 300 e1 61 301 e2 61 302 e3 61 303 e4 61 308 e5 61 30a e7 63 327 e8 65 300 e9 65 301 ea 65
302 eb 65 308 ec 69 300 ed 69 301 ee 69 302 ef 69 308 f1 6e 303 f2 6f 300 f3 6f 301 f4 6f 302 f5
6f 303 f6 6f 308 f9 75 300 fa 75 301 fb 75 302 fc 75 308 fd 79 301 ff 79 308 101 61 304 103 61 306
105 61 328 107 63 301 109 63 302 10b 63 307 10d 63 30c 10f 64 30c 113 65 304 115 65 306 117 65 307
119 65 328 11b 65 30c 11d 67 302 11f 67 306 121 67 307 123 67 327 125 68 302 129 69 303 12b 69 304
12d 69 306 12f 69 328 135 6a 302 137 6b 327 13a 6c 301 13c 6c 327 13e 6c 30c 144 6e 301 146 6e 327
148 6e 30c 14d 6f 304 14f 6f 306 151 6f 30b 155 72 301 157 72 327 159 72 30c 15b 73 301 15d 73 302
15f 73 327 161 73 30c 163 74 327 165 74 30c 169 75 303 16b 75 304 16d 75 306 16f 75 30a 171 75 30b
173 75 328 175 77 302 177 79 302 17a 7a 301 17c 7a 307 17e 7a 30c 1a1 6f 31b 1b0 75 31b 1ce 61 30c
1d0 69 30c 1d2 6f 30c 1d4 75 30c 1d6 fc 304 1d8 fc 301 1da fc 30c 1dc fc 300 1df e4 304 1e1 227
304 1e3 e6 304 1e7 67 30c 1e9 6b 30c 1eb 6f 328 1ed 1eb 304 1ef 292 30c 1f0 6a 30c 1f5 67 301 1f9
6e 300 1fb e5 301 1fd e6 301 1ff f8 301 201 61 30f 203 61 311 205 65 30f 207 65 311 209 69 30f 20b
69 311 20d 6f 30f 20f 6f 311 211 72 30f 213 72 311 215 75 30f 217 75 311 219 73 326 21b 74 326 21f
68 30c 227 61 307 229 65 327 22b f6 304 22d f5 304 22f 6f 307 231 22f 304 233 79 304 390 3ca 301
3ac 3b1 301 3ad 3b5 301 3ae 3b7 301 3af 3b9 301 3b0 3cb 301 3ca 3b9 308 3cb 3c5 308 3cc 3bf 301
3cd 3c5 301 3ce 3c9 301 439 438 306 450 435 300 451 435 308 453 433 301 457 456 308 45c 43a 301
45d 438 300 45e 443 306 477 475 30f 4c2 436 306 4d1 430 306 4d3 430 308 4d7 435 306 4db 4d9 308
4dd 436 308 4df 437 308 4e3 438 304 4e5 438 308 4e7 43e 308 4eb 4e9 308 4ed 44d 308 4ef 443 304
4f1 443 308 4f3 443 30b 4f5 447 308 4f9 44b 308 622 627 653 623 627 654 624 648 654 625 627 655
626 64a 654 6c0 6d5 654 6c2 6c1 654 6d3 6d2 654 929 928 93c 931 930 93c 934 933 93c 9cb 9c7 9be
9cc 9c7 9d7 b48 b47 b56 b4b b47 b3e b4c b47 b57 b94 b92 bd7 bca bc6 bbe bcb bc7 bbe bcc bc6 bd7
c48 c46 c56 cc0 cbf cd5 cc7 cc6 cd5 cc8 cc6 cd6 cca cc6 cc2 ccb cca cd5 d4a d46 d3e d4b d47 d3e
d4c d46 d57 dda dd9 dca ddc dd9 dcf ddd ddc dca dde dd9 ddf 1026 1025 102e 1b06 1b05 1b35 1b08
1b07 1b35 1b0a 1b09 1b35 1b0c 1b0b 1b35 1b0e 1b0d 1b35 1b12 1b11 1b35 1b3b 1b3a 1b35 1b3d 1b3c
1b35 1b40 1b3e 1b35 1b41 1b3f 1b35 1b43 1b42 1b35 1e01 61 325 1e03 62 307 1e05 62 323 1e07 62 331
1e09 e7 301 1e0b 64 307 1e0d 64 323 1e0f 64 331 1e11 64 327 1e13 64 32d 1e15 113 300 1e17 113 301
1e19 65 32d 1e1b 65 330 1e1d 229 306 1e1f 66 307 1e21 67 304 1e23 68 307 1e25 68 323 1e27 68 308
1e29 68 327 1e2b 68 32e 1e2d 69 330 1e2f ef 301 1e31 6b 301 1e33 6b 323 1e35 6b 331 1e37 6c 323
1e39 1e37 304 1e3b 6c 331 1e3d 6c 32d 1e3f 6d 301 1e41 6d 307 1e43 6d 323 1e45 6e 307 1e47 6e 323
1e49 6e 331 1e4b 6e 32d 1e4d f5 301 1e4f f5 308 1e51 14d 300 1e53 14d 301 1e55 70 301 1e57 70 307
1e59 72 307 1e5b 72 323 1e5d 1e5b 304 1e5f 72 331 1e61 73 307 1e63 73 323 1e65 15b 307 1e67 161
307 1e69 1e63 307 1e6b 74 307 1e6d 74 323 1e6f 74 331 1e71 74 32d 1e73 75 324 1e75 75 330 1e77 75
32d 1e79 169 301 1e7b 16b 308 1e7d 76 303 1e7f 76 323 1e81 77 300 1e83 77 301 1e85 77 308 1e87 77
307 1e89 77 323 1e8b 78 307 1e8d 78 308 1e8f 79 307 1e91 7a 302 1e93 7a 323 1e95 7a 331 1e96 68
331 1e97 74 308 1e98 77 30a 1e99 79 30a 1ea1 61 323 1ea3 61 309 1ea5 e2 301 1ea7 e2 300 1ea9 e2
309 1eab e2 303 1ead 1ea1 302 1eaf 103 301 1eb1 103 300 1eb3 103 309 1eb5 103 303 1eb7 1ea1 306
1eb9 65 323 1ebb 65 309 1ebd 65 303 1ebf ea 301 1ec1 ea 300 1ec3 ea 309 1ec5 ea 303 1ec7 1eb9 302
1ec9 69 309 1ecb 69 323 1ecd 6f 323 1ecf 6f 309 1ed1 f4 301 1ed3 f4 300 1ed5 f4 309 1ed7 f4 303
1ed9 1ecd 302 1edb 1a1 301 1edd 1a1 300 1edf 1a1 309 1ee1 1a1 303 1ee3 1a1 323 1ee5 75 323 1ee7 75
309 1ee9 1b0 301 1eeb 1b0 300 1eed 1b0 309 1eef 1b0 303 1ef1 1b0 323 1ef3 79 300 1ef5 79 323 1ef7
79 309 1ef9 79 303 1f00 3b1 313 1f01 3b1 314 1f02 1f00 300 1f03 1f01 300 1f04 1f00 301 1f05 1f01
301 1f06 1f00 342 1f07 1f01 342 1f10 3b5 313 1f11 3b5 314 1f12 1f10 300 1f13 1f11 300 1f14 1f10
301 1f15 1f11 301 1f20 3b7 313 1f21 3b7 314 1f22 1f20 300 1f23 1f21 300 1f24 1f20 301 1f25 1f21
301 1f26 1f20 342 1f27 1f21 342 1f30 3b9 313 1f31 3b9 314 1f32 1f30 300 1f33 1f31 300 1f34 1f30
301 1f35 1f31 301 1f36 1f30 342 1f37 1f31 342 1f40 3bf 313 1f41 3bf 314 1f42 1f40 300 1f43 1f41
300 1f44 1f40 301 1f45 1f41 301 1f50 3c5 313 1f51 3c5 314 1f52 1f50 300 1f53 1f51 300 1f54 1f50
301 1f55 1f51 301 1f56 1f50 342 1f57 1f51 342 1f60 3c9 313 1f61 3c9 314 1f62 1f60 300 1f63 1f61
300 1f64 1f60 301 1f65 1f61 301 1f66 1f60 342 1f67 1f61 342 1f70 3b1 300 1f72 3b5 300 1f74 3b7 300
1f76 3b9 300 1f78 3bf 300 1f7a 3c5 300 1f7c 3c9 300 1fb0 3b1 306 1fb1 3b1 304 1fb6 3b1 342 1fc6
3b7 342 1fd0 3b9 306 1fd1 3b9 304 1fd2 3ca 300 1fd6 3b9 342 1fd7 3ca 342 1fe0 3c5 306 1fe1 3c5 304
1fe2 3cb 300 1fe4 3c1 313 1fe5 3c1 314 1fe6 3c5 342 1fe7 3cb 342 1ff6 3c9 342 219a 2190 338 219b
2192 338 21ae 2194 338 21cd 21d0 338 21ce 21d4 338 21cf 21d2 338 2204 2203 338 2209 2208 338 220c
220b 338 2224 2223 338 2226 2225 338 2241 223c 338 2244 2243 338 2247 2245 338 2249 2248 338 2260
3d 338 2262 2261 338 226d 224d 338 226e 3c 338 226f 3e 338 2270 2264 338 2271 2265 338 2274 2272
338 2275 2273 338 2278 2276 338 2279 2277 338 2280 227a 338 2281 227b 338 2284 2282 338 2285 2283
338 2288 2286 338 2289 2287 338 22ac 22a2 338 22ad 22a8 338 22ae 22a9 338 22af 22ab 338 22e0 227c
338 22e1 227d 338 22e2 2291 338 22e3 2292 338 22ea 22b2 338 22eb 22b3 338 22ec 22b4 338 22ed 22b5
338 304c 304b 3099 304e 304d 3099 3050 304f 3099 3052 3051 3099 3054 3053 3099 3056 3055 3099 3058
3057 3099 305a 3059 3099 305c 305b 3099 305e 305d 3099 3060 305f 3099 3062 3061 3099 3065 3064
3099 3067 3066 3099 3069 3068 3099 3070 306f 3099 3071 306f 309a 3073 3072 3099 3074 3072 309a
3076 3075 3099 3077 3075 309a 3079 3078 3099 307a 3078 309a 307c 307b 3099 307d 307b 309a 3094
3046 3099 309e 309d 3099 30ac 30ab 3099 30ae 30ad 3099 30b0 30af 3099 30b2 30b1 3099 30b4 30b3
3099 30b6 30b5 3099 30b8 30b7 3099 30ba 30b9 3099 30bc 30bb 3099 30be 30bd 3099 30c0 30bf 3099
30c2 30c1 3099 30c5 30c4 3099 30c7 30c6 3099 30c9 30c8 3099 30d0 30cf 3099 30d1 30cf 309a 30d3
30d2 3099 30d4 30d2 309a 30d6 30d5 3099 30d7 30d5 309a 30d9 30d8 3099 30da 30d8 309a 30dc 30db
3099 30dd 30db 309a 30f4 30a6 3099 30f7 30ef 3099 30f8 30f0 3099 30f9 30f1 3099 30fa 30f2 3099
30fe 30fd 3099 105c9 105d2 307 105e4 105da 307 1109a 11099 110ba 1109c 1109b 110ba 110ab 110a5
110ba 1112e 11131 11127 1112f 11132 11127 1134b 11347 1133e 1134c 11347 11357 11383 11382 113c9
11385 11384 113bb 1138e 1138b 113c2 11391 11390 113c9 113c5 113c2 113c2 113c7 113c2 113b8 113c8
113c2 113c9 114bb 114b9 114ba 114bc 114b9 114b0 114be 114b9 114bd 115ba 115b8 115af 115bb 115b9
115af 11938 11935 11930 16121 1611e 1611e 16122 1611e 16129 16123 1611e 1611f 16124 16129 1611f
16125 1611e 16120 16126 16121 1611f 16127 16122 1611f 16128 16121 16120 16d68 16d67 16d67 16d69
16d63 16d67 16d6a 16d69 16d67"

/-- Combining classes. -/
def combining : String := "
300 0 15 e6 1 e8 4 dc 1 e8 1 d8 5 dc 2 ca 4 dc 2 ca b dc 5 1 4 dc a e6 3 dc 3 e6 3 dc 3 e6 4 dc 1
e6 1 e8 2 dc 1 e6 1 e9 2 ea 1 e9 2 ea 1 e9 e e6 112 0 5 e6 109 0 1 dc 4 e6 1 dc 3 e6 1 de 1 dc 6
e6 6 dc 2 e6 1 dc 2 e6 1 de 1 e4 1 e6 1 a 1 b 1 c 1 d 1 e 1 f 1 10 1 11 1 12 2 13 1 14 1 15 1 16 1
0 1 17 1 0 1 18 1 19 1 0 1 e6 1 dc 1 0 9 12 40 0 8 e6 1 1e 1 1f 1 20 30 0 1 1b 1 1c 1 1d 1 1e 1 1f
1 20 1 21 1 22 2 e6 2 dc 5 e6 1 dc 2 e6 1 dc 10 0 1 23 65 0 8 e6 1 0 4 e6 1 dc 1 e6 2 0 2 e6 1 0 1
dc 2 e6 1 dc 23 0 1 24 1e 0 1 e6 1 dc 2 e6 1 dc 2 e6 3 dc 1 e6 2 dc 1 e6 1 dc 3 e6 1 dc 1 e6 1 dc
1 e6 1 dc 1 e6 1 dc 4 e6 9e 0 7 e6 1 dc 1 e6 9 0 1 dc 18 0 4 e6 1 0 9 e6 1 0 3 e6 1 0 7 e6 29 0 5
dc 39 0 2 e6 3 dc 4 e6 2a 0 5 e6 5 dc f e6 1 dc 2 e6 1 dc 2 e6 1 dc 3 e6 3 dc 1 1b 1 1c 1 1d 3 e6
1 dc 2 e6 2 dc 5 e6 3c 0 1 7 10 0 1 9 3 0 1 e6 1 dc 2 e6 67 0 1 7 10 0 1 9 30 0 3 e6 3b 0 2 7 f 0
4 9 6b 0 1 7 10 0 3 9 6c 0 1 7 10 0 8 9 78 0 3 9 6c 0 1 7 10 0 8 9 1 54 2 5b 64 0 1 7 10 0 8 9 66
0 2 9 10 0 1 9 7c 0 5 9 69 0 2 67 5 9 9 0 4 6b 6c 0 2 76 1 9 d 0 4 7a 4c 0 2 dc 1b 0 1 dc 1 0 1 dc
1 0 1 d8 37 0 1 81 2 82 6 84 4 82 2 0 2 82 2 e6 1 9 1 0 2 e6 3e 0 1 dc 70 0 1 7 1 0 2 9 52 0 1 dc
2cf 0 3 e6 3b4 0 b 9 15 0 1 9 9d 0 1 9 a 0 3 e6 c9 0 1 e4 8f 0 1 de 1 e6 5 dc d7 0 1 e6 1 dc 47 0
1 9 14 0 a e6 1 dc 30 0 5 e6 6 dc 2 e6 1 dc 1 0 2 dc 2 e6 2 dc 5 e6 1 dc 12 e6 3 dc 6 e6 1 dc 4 e6
15 ea 34 0 1 7 f 0 1 9 26 0 1 e6 1 dc 7 e6 36 0 2 9 3a 0 1 7 b 0 a 9 3b 0 4 7 95 0 3 e6 1 0 1 1 5
dc 2 e6 4 dc 1 e6 1 0 7 1 4 0 1 dc 6 0 1 e6 3 0 2 e6 c6 0 2 e6 1 dc 7 e6 1 dc 2 e6 1 ea 1 d6 1 dc
1 ca 25 e6 1 e8 2 e4 1 dc 1 da 1 e6 1 e9 1 dc 1 e6 2 dc 2cf 0 2 e6 2 1 4 e6 3 1 2 e6 4 0 1 e6 3 0
2 1 1 e6 1 dc 1 e6 2 1 4 dc 14 e6 beb 0 4 e6 8c 0 1 9 60 0 20 e6 22a 0 1 da 1 e4 1 e8 1 de 2 e0 69
0 4 8 75d2 0 1 e6 4 0 a e6 20 0 2 e6 50 0 2 e6 114 0 1 9 25 0 4 9 94 0 1 9 1b 0 12 e6 39 0 3 dc 25
0 c 9 54 0 1 7 c 0 1 9 ef 0 1 e6 1 0 2 e6 1 dc 2 0 2 e6 5 0 2 e6 1 0 1 e6 34 0 b 9 ec 0 3 9 4f2e 0
94 1a 26e 0 7 e6 7 dc 17 e6 3b8 0 83 dc 60 0 1 dc 95 0 a e6 68d 0 1 dc 1 0 1 e6 28 0 1 e6 1 1 5 dc
1 9 a5 0 1 e6 5 dc 239 0 c e6 39 0 5 e6 13d 0 2 e6 4d 0 2 dc 1 0 3 dc 46 0 2 dc 3 e6 1 dc 1 e6 4
dc 31 0 1 e6 1 dc 1 e6 1 dc c0 0 1 9 29 0 1 9 e 0 1 9 39 0 1 9 1 7 45 0 3 e6 30 0 3 9 3d 0 1 7 4c
0 1 9 9 0 1 7 6a 0 1 9 1 7 b2 0 1 7 6 9 4b 0 2 7 10 0 3 9 16 0 1a e6 4e 0 3 9 71 0 1 9 3 0 1 7 17
0 1 e6 63 0 1 9 1 7 fb 0 1 9 1 7 7e 0 1 9 76 0 1 9 1 7 73 0 5 9 109 0 1 9 1 7 102 0 2 9 4 0 1 7 9c
0 1 9 53 0 1 9 12 0 9 9 49 0 1 9 1a5 0 1 9 102 0 1 7 1 0 2 9 51 0 1 9 1a9 0 2 9 41ec 0 1 9 9c0 0 5
1 3b 0 7 e6 4b9 0 2 6 4cac 0 1 1 14c6 0 2 d8 3 1 3 0 1 e2 d d8 8 dc 2 0 5 e6 2 dc 1e 0 4 e6 94 0 3
e6 dbb 0 100 e6 30 0 7 e6 177 0 12 e6 2c 0 4 e6 1fc 0 2 e8 1 dc 1 e6 fe 0 1 e6 1 dc f3 0 1 e6 2 0
1 e6 7 0 2 e6 5 0 9 e6 1d2 0 52 dc 22 0 6 e6 1 7 f16b5 0"

/-- Which characters are marks. -/
def marks : String := "
300 0 71 1 112 0 8 1 106 0 2d 1 1 0 1 1 1 0 2 1 1 0 2 1 1 0 9 1 40 0 b 1 30 0 15 1 10 0 1 1 65 0 8
1 1 0 6 1 2 0 2 1 1 0 4 1 23 0 1 1 1e 0 1d 1 59 0 b 1 3a 0 9 1 9 0 1 1 18 0 4 1 1 0 9 1 1 0 3 1 1
0 7 1 29 0 5 1 39 0 9 1 2a 0 3a 1 36 0 3 1 1 0 12 1 1 0 f 1 2 0 2 1 1d 0 4 1 37 0 1 1 1 0 10 1 9 0
9 1 2 0 4 1 18 0 7 1 37 0 20 1 14 0 2 1 3 0 1 1 b 0 4 1 37 0 1 1 1 0 12 1 12 0 4 1 14 0 b 1 37 0 1
1 1 0 21 1 3 0 4 1 1c 0 1 1 3b 0 12 1 7 0 f 1 1a 0 5 1 37 0 1 1 1 0 1a 1 a 0 4 1 1b 0 3 1 38 0 1 1
1 0 1e 1 6 0 4 1 d 0 11 1 37 0 2 1 1 0 10 1 9 0 1 1 a 0 4 1 1b 0 4 1 45 0 1c 1 c 0 2 1 3d 0 1 1 2
0 b 1 8 0 8 1 62 0 1 1 2 0 9 1 b 0 8 1 48 0 2 1 1b 0 1 1 1 0 1 1 1 0 1 1 4 0 2 1 31 0 14 1 1 0 2 1
5 0 31 1 8 0 1 1 64 0 14 1 17 0 4 1 4 0 3 1 1 0 3 1 2 0 7 1 3 0 4 1 d 0 c 1 1 0 1 1 a 0 4 1 2bf 0
3 1 3b2 0 d 1 13 0 3 1 1d 0 e 1 12 0 e 1 36 0 1e 1 9 0 3 1 a5 0 2 1 22 0 1 1 76 0 20 1 d7 0 7 1 37
0 2b 1 30 0 55 1 2f 0 11 1 26 0 9 1 c 0 3 1 1e 0 d 1 38 0 16 1 28 0 17 1 95 0 3 1 1 0 15 1 4 0 1 1
6 0 1 1 2 0 3 1 c6 0 41 1 2cf 0 34 1 beb 0 4 1 8c 0 1 1 60 0 20 1 22a 0 6 1 69 0 4 1 75d2 0 4 1 1
0 a 1 20 0 2 1 50 0 2 1 110 0 1 1 3 0 1 1 4 0 1 1 17 0 5 1 4 0 4 1 50 0 2 1 32 0 1a 1 12 0 12 1 d
0 1 1 26 0 8 1 19 0 18 1 21 0 4 1 2f 0 e 1 24 0 1 1 43 0 17 1 3 0 1 1 8 0 4 1 2b 0 3 1 32 0 1 1 1
0 3 1 2 0 2 1 5 0 2 1 1 0 1 1 29 0 5 1 5 0 c 1 e2 0 8 1 1 0 4 1 4f2e 0 94 1 26e 0 25 1 3b8 0 83 1
60 0 1 1 95 0 a 1 681 0 f 1 28 0 8 1 a5 0 6 1 239 0 c 1 39 0 5 1 13d 0 2 1 4d 0 6 1 46 0 b 1 31 0
4 1 7a 0 3 1 35 0 f 1 29 0 1 1 2 0 2 1 a 0 4 1 2d 0 b 1 7 0 e 1 30 0 3 1 24 0 f 1 f 0 2 1 2c 0 1 1
c 0 3 1 30 0 e 1 8 0 4 1 1 0 2 1 5c 0 c 1 6 0 1 1 2 0 3f 1 5f 0 11 1 10 0 5 1 36 0 2 1 1 0 12 1 7
0 6 1 5 0 1e 1 38 0 19 1 1 0 1 1 e 0 1f 1 35 0 12 1 17 0 1 1 51 0 14 1 eb 0 12 1 1b 0 24 1 30 0 11
1 6a 0 d 1 65 0 13 1 fc 0 f 1 f5 0 f 1 1 0 1 1 1 0 2 1 8d 0 10 1 3 0 1c 1 1 0 a 1 28 0 7 1 1 0 4 1
8 0 9 1 1 0 b 1 2e 0 10 1 c6 0 60 1 6f 0 11 1 52 0 6e 1 31 0 15 1 1 0 9 1 3a 0 e 1 15b 0 4 1 9 0 2
1 1 0 1 1 30 0 f 1 17 0 56 1 1490 0 1 1 6 0 19 1 2cbe 0 12 1 9c0 0 5 1 3b 0 7 1 418 0 1 1 1 0 42 1
51 0 e 1 4cab 0 2 1 1261 0 50 1 215 0 5 1 3 0 16 1 2 0 7 1 1e 0 4 1 94 0 3 1 7bb 0 37 1 4 0 32 1 8
0 1 1 e 0 1 1 16 0 465 1 100 0 100 1 30 0 7 1 177 0 12 1 2c 0 4 1 1fc 0 4 1 fe 0 2 1 f3 0 1 1 2 0
1 1 7 0 2 1 5 0 9 1 1d2 0 52 1 22 0 7 1 f16b5 0"

/-- How letters join. -/
def joining : String := "
300 0 71 4 112 0 8 4 106 0 2d 4 1 0 1 4 1 0 2 4 1 0 2 4 1 0 9 4 40 0 b 4 5 0 1 3 1 0 4 2 1 3 1 2 1
3 1 2 5 3 4 2 d 3 1 0 7 3 1 2 2 3 15 4 e 0 2 3 1 4 3 2 5 0 f 3 12 2 26 3 1 2 2 3 9 2 1 3 1 2 1 3 1
2 2 3 2 2 1 0 1 2 8 4 1 0 6 4 2 0 2 4 1 0 4 4 2 2 a 0 3 3 2 0 1 3 10 0 1 2 1 4 3 3 5 2 4 3 1 2 9 3
1 2 1 3 1 2 1 3 1 2 2 3 1 2 1d 4 1 2 b 3 3 2 f 3 2 2 4 3 1 2 1 3 2 2 3 3 2 2 6 3 26 0 b 4 19 0 21
3 9 4 9 0 1 4 18 0 4 4 1 0 9 4 1 0 3 4 1 0 7 4 10 0 1 2 5 3 2 2 1 3 1 2 a 3 1 2 1 3 3 2 5 4 2 0 1
3 1 0 4 3 1 0 1 2 1 3 1a 2 3 0 1 3 2 0 5 3 1 2 8 3 9 4 a 3 3 2 1 0 1 2 2 3 2 2 6 3 1 2 f 3 1 0 39
4 37 0 1 4 1 0 1 4 4 0 8 4 4 0 1 4 3 0 f 4 2 0 2 4 1d 0 1 4 3a 0 1 4 4 0 6 4 6 0 1 4 14 0 4 4 18 0
5 4 39 0 2 4 3 0 1b 4 14 0 2 4 3 0 1 4 b 0 2 4 39 0 1 4 4 0 8 4 4 0 3 4 12 0 4 4 14 0 8 4 3a 0 1 4
2 0 1 4 1 0 6 4 6 0 a 4 b 0 4 4 1c 0 1 4 3d 0 1 4 c 0 3 4 30 0 1 4 3 0 1 4 37 0 1 4 1 0 3 4 5 0 12
4 a 0 4 4 1b 0 1 4 3a 0 1 4 2 0 1 4 6 0 1 4 5 0 9 4 d 0 4 4 1a 0 2 4 39 0 2 4 4 0 5 4 7 0 1 4 14 0
4 4 1b 0 1 4 48 0 5 4 3 0 6 4 59 0 1 4 2 0 b 4 8 0 8 4 62 0 1 4 2 0 9 4 b 0 8 4 48 0 2 4 1b 0 1 4
1 0 1 4 1 0 1 4 37 0 e 4 1 0 5 4 1 0 2 4 5 0 31 4 8 0 1 4 66 0 4 4 1 0 6 4 1 0 2 4 2 0 2 4 19 0 2
4 4 0 3 4 10 0 4 4 d 0 1 4 2 0 2 4 6 0 1 4 f 0 1 4 2bf 0 3 4 3b2 0 3 4 1d 0 2 4 1e 0 e 4 12 0 e 4
37 0 7 4 8 0 1 4 2 0 b 4 9 0 3 4 27 0 1 3 18 0 60 3 5 0 2 4 22 3 1 4 6 3 70 0 3 4 4 0 2 4 9 0 1 4
6 0 7 4 d7 0 2 4 2 0 3 4 38 0 1 4 1 0 9 4 1 0 1 4 2 0 8 4 6 0 d 4 30 0 54 4 30 0 1 4 1 0 5 4 1 0 1
4 5 0 1 4 28 0 9 4 c 0 2 4 20 0 4 4 2 0 2 4 1 0 3 4 38 0 1 4 1 0 2 4 3 0 1 4 1 0 3 4 3a 0 8 4 2 0
5 4 95 0 3 4 1 0 d 4 1 0 7 4 4 0 1 4 6 0 1 4 3 0 2 4 c6 0 41 4 2cf 0 34 4 beb 0 4 4 8c 0 1 4 60 0
20 4 22a 0 4 4 6b 0 4 4 75d2 0 4 4 1 0 a 4 20 0 2 4 50 0 2 4 110 0 1 4 3 0 1 4 4 0 1 4 19 0 2 4 5
0 4 4 10 0 32 3 1 1 51 0 a 4 12 0 12 4 d 0 1 4 26 0 8 4 19 0 b 4 2e 0 3 4 30 0 1 4 2 0 4 4 2 0 2 4
27 0 1 4 43 0 6 4 2 0 2 4 2 0 b 4 3 0 1 4 8 0 1 4 2f 0 1 4 33 0 1 4 1 0 3 4 2 0 2 4 5 0 2 4 1 0 1
4 2a 0 2 4 8 0 b 4 e4 0 1 4 2 0 1 4 4 0 3 4 4f2e 0 94 4 26e 0 25 4 3b8 0 83 4 60 0 1 4 95 0 a 4
681 0 f 4 28 0 8 4 80 0 5 3 1 2 1 0 1 2 1 0 2 2 2 0 1 1 5 2 4 3 1 1 5 3 1 2 3 3 1 2 2 0 1 2 6 4 4
3 1 2 90 0 1 3 1 2 1 3 3 2 3 3 1 2 2 3 1 2 1 3 2 2 1 3 8 2 10 0 4 2 2 3 151 0 1 1 21 3 1 2 1 3 c 4
39 0 5 4 13d 0 2 4 15 0 1 2 2 3 1 0 a 3 2a 0 6 4 30 0 3 3 1 2 11 3 1 0 b 4 3 3 1 2 1b 0 4 3 2 2 c
3 4 4 2a 0 1 3 1 0 2 3 3 2 1 0 1 3 2 2 2 3 1 2 2 3 1 0 1 3 2 2 1 3 4 0 1 2 1 3 15 1 21 0 1 4 36 0
f 4 29 0 1 4 2 0 2 4 a 0 3 4 31 0 4 4 2 0 2 4 7 0 e 4 30 0 3 4 24 0 5 4 1 0 9 4 3d 0 1 4 c 0 2 4
34 0 9 4 a 0 4 4 2 0 1 4 5f 0 3 4 2 0 1 4 1 0 2 4 6 0 1 4 2 0 3f 4 5f 0 1 4 3 0 d 4 10 0 2 4 39 0
2 4 3 0 1 4 25 0 1a 4 3b 0 7 4 c 0 1 4 1 0 1 4 1 0 1 4 e 0 1f 4 38 0 8 4 2 0 3 4 1 0 1 4 17 0 1 4
54 0 6 4 1 0 1 4 4 0 2 4 1 0 2 4 ee 0 6 4 4 0 2 4 1 0 2 4 1b 0 24 4 33 0 8 4 2 0 1 4 1 0 2 4 6a 0
1 4 1 0 1 4 2 0 6 4 1 0 1 4 65 0 1 4 1 0 1 4 2 0 4 4 1 0 9 4 ff 0 9 4 1 0 2 4 100 0 2 4 1 0 1 4 4
0 1 4 90 0 8 4 4 0 1 4 20 0 a 4 28 0 6 4 2 0 4 4 8 0 9 4 1 0 6 4 2 0 3 4 2e 0 d 4 1 0 2 4 c6 0 1 4
1 0 3 4 1 0 1 4 c9 0 e 4 1 0 1 4 52 0 17 4 1 0 7 4 1 0 2 4 1 0 4b 4 31 0 15 4 1 0 9 4 40 0 3 4 2 0
1 4 1 0 1 4 15b 0 2 4 b 0 2 4 34 0 8 4 2 0 1 4 1 0 1 4 17 0 56 4 1490 0 1 4 6 0 19 4 2cbe 0 c 4 3
0 3 4 9c0 0 5 4 3b 0 7 4 418 0 1 4 3f 0 4 4 51 0 c 4 4cad 0 2 4 1261 0 50 4 217 0 3 4 11 0 8 4 2 0
7 4 1e 0 4 4 94 0 3 4 7bb 0 37 4 4 0 32 4 8 0 1 4 e 0 1 4 16 0 465 4 100 0 100 4 30 0 7 4 177 0 12
4 2c 0 4 4 1fc 0 4 4 fe 0 2 4 f3 0 1 4 2 0 1 4 7 0 2 4 5 0 9 4 1d2 0 52 4 22 3 c 4 f16b0 0"

/-- Directions. -/
def directions : String := "
9 9 5 b e 9 5 b 2 8 3 7 5 8 1 5 1 6 1 5 2 6 a 4 1 6 26 8 1a 0 4 8 22 9 1 8 4 7 a 8 6 7 29 8 18 0 1
8 1c1 0 2 8 7 0 e 8 2 0 1c 8 1 0 11 8 71 a 4 0 2 8 7f 0 2 8 8b 0 8 a ff 0 5 8 2 7 2d a 1 1 1 a 1 1
2 a 1 1 2 a 1 1 9 a 36 1 2 8 1 2 2 7 1 2 1 6 1 2 2 8 b a 30 2 15 a a 3 1 7 2 3 3 2 1 a 65 2 8 a 1
8 6 a 2 2 2 a 1 8 4 a 2 2 a 4 17 2 1 a 1e 2 1d a 59 2 b a f 2 2b 1 9 a 2 1 4 8 3 1 1 a 18 1 4 a 1
1 9 a 1 1 3 a 1 1 7 a 29 1 5 a 2 1 37 2 9 a 2a 2 39 a 37 0 1 a 1 0 1 a 4 0 8 a 4 0 1 a 3 0 f a 2 0
2 a 1d 0 1 a 3a 0 1 a 4 0 6 a 6 0 1 a 14 0 4 a c 0 2 7 7 0 1 7 2 0 5 a 39 0 2 a 3 0 1b a 14 0 2 a
3 0 1 a b 0 2 a 39 0 1 a 4 0 8 a 4 0 3 a 12 0 4 a b 0 8 7 1 0 8 a 3a 0 1 a 2 0 1 a 1 0 6 a 6 0 a a
b 0 4 a 1c 0 1 a 3d 0 1 a c 0 3 a 23 0 6 8 1 7 6 8 1 a 3 0 1 a 37 0 1 a 1 0 3 a 5 0 12 a a 0 4 a
12 0 7 8 2 0 1 a 3a 0 1 a f 0 9 a d 0 4 a 1a 0 2 a 39 0 2 a 4 0 5 a 7 0 1 a 14 0 4 a 1b 0 1 a 48 0
5 a 3 0 6 a 59 0 1 a 2 0 b a 1 7 7 0 8 a 62 0 1 a 2 0 9 a b 0 8 a 48 0 2 a 1b 0 1 a 1 0 1 a 1 0 1
a 4 8 33 0 e a 1 0 5 a 1 0 2 a 5 0 31 a 8 0 1 a 66 0 4 a 1 0 6 a 1 0 2 a 2 0 2 a 19 0 2 a 4 0 3 a
10 0 4 a d 0 1 a 2 0 2 a 6 0 1 a f 0 1 a 2bf 0 3 a 30 0 10 8 60 0 1 8 29a 0 5 8 72 0 3 a 1d 0 2 a
1e 0 e a 12 0 e a 37 0 7 a 8 0 1 a 2 0 b a 7 0 1 7 1 0 3 a 10 0 20 8 75 0 2 a 22 0 1 a 76 0 3 a 4
0 2 a 9 0 1 a 6 0 7 a 6 8 98 0 22 8 17 0 2 a 2 0 3 a 38 0 1 a 1 0 9 a 1 0 1 a 2 0 8 a 6 0 d a 30 0
54 a 30 0 1 a 1 0 5 a 1 0 1 a 5 0 1 a 28 0 9 a c 0 2 a 20 0 4 a 2 0 2 a 1 0 3 a 38 0 1 a 1 0 2 a 3
0 1 a 1 0 3 a 3a 0 8 a 2 0 5 a 95 0 3 a 1 0 d a 1 0 7 a 4 0 1 a 6 0 1 a 3 0 2 a c6 0 41 a 20b 0 4
9 20 8 5 7 f 8 1 6 5b 8 30 7 34 a 2a 8 c 7 14 8 3c 0 88 8 1 5 1 7 122 8 45 0 1a 8 1 0 316 8 1 0
153 8 100 0 330 8 b5 0 7 8 3 0 4 a 6 0 7 8 7f 0 1 a 60 0 20 a 205 8 3 0 19 8 9 0 4 a 2 0 1 8 6 0 4
8 2 0 4 8 58 0 4 a 3 0 1 8 5a 0 1 8 c4 0 30 8 1bd0 0 40 8 5690 0 40 8 13d 0 3 8 5f 0 4 a 1 8 a a 3
8 1d 0 2 a 50 0 2 a e 0 23 8 65 0 1 8 79 0 1 a 3 0 1 a 4 0 1 a 19 0 2 a 1 0 4 8 4 a 8 0 8 7 34 0 c
8 44 0 a a 12 0 12 a d 0 1 a 26 0 8 a 19 0 b a 2e 0 3 a 30 0 1 a 2 0 4 a 2 0 2 a 27 0 1 a 43 0 6 a
2 0 2 a 2 0 b a 3 0 1 a 8 0 1 a 2f 0 1 a 33 0 1 a 1 0 3 a 2 0 2 a 5 0 2 a 1 0 1 a 2a 0 2 a 8 0 b a
69 0 56 8 25 0 1 a 2 0 1 a 4 0 3 a 4f2e 0 94 a 11 2 25d 8 25 a 2e 8 18d 2 101 0 1 8 3e 0 4d 8 3 0
40 8 2d 0 83 a 60 0 1 a 1f 4 76 0 a a 480 0 11f 1 1 8 e1 1 f a 28 1 8 a a5 1 6 a 4e 1 7 8 1c0 1 24
2 c a 10 3 29 1 5 a f2 1 20 3 2b 1 2 a 15 1 38 2 6 a 30 1 16 2 b a 1f 2 12 1 4 a 7a 1 1 0 1 a 36 0
f a b 0 14 8 a 0 1 a 2 0 2 a a 0 3 a 31 0 4 a 2 0 2 a 7 0 e a 30 0 3 a 24 0 5 a 1 0 9 a 3d 0 1 a c
0 2 a 34 0 9 a a 0 4 a 2 0 1 a 5f 0 3 a 2 0 1 a 1 0 2 a 6 0 1 a 2 0 3f a 5f 0 1 a 3 0 d a 10 0 2 a
39 0 2 a 3 0 1 a 25 0 1a a 3b 0 7 a c 0 1 a 1 0 1 a 1 0 1 a e 0 1f a 38 0 8 a 2 0 3 a 1 0 1 a 17 0
1 a 54 0 6 a 1 0 1 a 4 0 2 a 1 0 2 a ee 0 6 a 4 0 2 a 1 0 2 a 1b 0 24 a 33 0 8 a 2 0 1 a 1 0 2 a
1f 0 20 8 2b 0 1 a 1 0 1 a 2 0 6 a 1 0 1 a 65 0 3 a 2 0 4 a 1 0 9 a ff 0 9 a 1 0 2 a 100 0 2 a 1 0
1 a 4 0 1 a 90 0 8 a 4 0 1 a 20 0 6 a 2 0 2 a 28 0 6 a 2 0 4 a 8 0 9 a 1 0 6 a 2 0 3 a 2e 0 d a 1
0 2 a c6 0 1 a 1 0 3 a 1 0 1 a c9 0 e a 54 0 17 a 1 0 7 a 1 0 2 a 1 0 4b a 31 0 15 a 1 0 9 a 40 0
3 a 2 0 1 a 1 0 1 a 15b 0 2 a b 0 2 a 34 0 8 a 2 0 1 a 1 0 1 a 17 0 56 a 25 0 8 8 4 7 1e 8 1441 0
1 a 6 0 19 a 2cbe 0 c a 3 0 3 a 9c0 0 5 a 3b 0 7 a 418 0 1 a 3f 0 4 a 4f 0 1 8 1 0 c a 4cad 0 2 a
f61 0 300 8 50 a 217 0 3 a 11 0 8 a 2 0 7 a 1e 0 4 a 3b 0 59 8 3 a 7b 8 40 0 60 8 6a0 0 37 a 4 0
32 a 8 0 1 a e 0 1 a 16 0 465 a 100 0 100 a 30 0 7 a 177 0 12 a 2c 0 4 a f 0 1d1 7 1c 0 4 a fe 0 2
a f3 0 1 a 2 0 1 a 7 0 2 a 5 0 9 a 102 0 d0 1 52 a 22 1 7 a 326 1 27f 2 260 8 1d 0 3 8 3d 0 39 8
7a 0 da0 8 f0000 0"

end Tables

end Idna

end ContractQuery
